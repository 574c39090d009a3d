import ButtonCombo.Text.CharRange

/-!
# Blank characters and trimming

Button names, key names and the lines of an input script may be padded.  Padding
is made of the characters with the Unicode property `White_Space`; trimming takes
it away from both ends of a text and from nowhere else.

Main facts:

* `trim_append_of_blank`, `trim_blank_append`: padding is invisible to `trim`;
* `trim_of_ends`: a text whose ends are no blanks is left alone;
* `exists_padding`: what trimming takes away is padding.
-/

namespace ButtonCombo
namespace Text

/-- The ranges of the Unicode property `White_Space`. -/
def blankRanges : List (Nat × Nat) :=
  [(0x0009, 0x000D), (0x0020, 0x0020), (0x0085, 0x0085), (0x00A0, 0x00A0),
   (0x1680, 0x1680), (0x2000, 0x200A), (0x2028, 0x2029), (0x202F, 0x202F),
   (0x205F, 0x205F), (0x3000, 0x3000)]

/-- A character that pads a name without being part of it. -/
def isBlank (c : Char) : Bool :=
  inRanges blankRanges c

/-- The text without the blanks that it starts with. -/
def trimStart (cs : List Char) : List Char :=
  cs.dropWhile isBlank

/-- The text without the blanks that it ends with. -/
def trimEnd (cs : List Char) : List Char :=
  (trimStart cs.reverse).reverse

/-- The text without the blanks at its two ends. -/
def trim (cs : List Char) : List Char :=
  trimEnd (trimStart cs)

theorem trimStart_blank_append
    {pad : List Char}
    (h : ∀ c ∈ pad, isBlank c = true)
    (cs : List Char) :
    trimStart (pad ++ cs) = trimStart cs := by
  induction pad with
  | nil => rfl
  | cons c pad ih =>
      have hc : isBlank c = true := h c (by simp)
      have hpad : ∀ d ∈ pad, isBlank d = true := fun d hd => h d (by simp [hd])
      simpa [trimStart, List.dropWhile_cons, hc] using ih hpad

theorem trimEnd_append_of_blank
    {pad : List Char}
    (h : ∀ c ∈ pad, isBlank c = true)
    (cs : List Char) :
    trimEnd (cs ++ pad) = trimEnd cs := by
  simp only [trimEnd, List.reverse_append]
  rw [trimStart_blank_append]
  simpa using h

/-- Blanks in front of a text do not change what trimming leaves. -/
theorem trim_blank_append
    {pad : List Char}
    (h : ∀ c ∈ pad, isBlank c = true)
    (cs : List Char) :
    trim (pad ++ cs) = trim cs := by
  simp [trim, trimStart_blank_append h]

/-- A text that starts with no blank keeps its start. -/
theorem trimStart_of_head
    {c : Char}
    (h : isBlank c = false)
    (cs : List Char) :
    trimStart (c :: cs) = c :: cs := by
  simp [trimStart, h]

/-- A text of blanks trims to nothing. -/
theorem trim_eq_nil_of_blank
    {cs : List Char}
    (h : ∀ c ∈ cs, isBlank c = true) :
    trim cs = [] := by
  have := trim_blank_append h []
  simpa [trim, trimStart, trimEnd] using this

/-- Blanks after a text do not change what trimming leaves. -/
theorem trim_append_of_blank
    {pad : List Char}
    (h : ∀ c ∈ pad, isBlank c = true)
    (cs : List Char) :
    trim (cs ++ pad) = trim cs := by
  induction cs with
  | nil =>
      rw [List.nil_append, trim_eq_nil_of_blank h]
      rfl
  | cons c cs ih =>
      cases hc : isBlank c with
      | true =>
          have hpad : ∀ d ∈ [c], isBlank d = true := by simpa using hc
          have hdrop := trim_blank_append hpad
          simpa using (hdrop (cs ++ pad)).trans (ih.trans (hdrop cs).symm)
      | false =>
          simp only [trim, List.cons_append, trimStart_of_head hc]
          exact trimEnd_append_of_blank h (c :: cs)

/-- A text whose first and last characters are no blanks is already trimmed. -/
theorem trim_of_ends
    {cs : List Char}
    (hfirst : ∀ c, cs.head? = some c → isBlank c = false)
    (hlast : ∀ c, cs.getLast? = some c → isBlank c = false) :
    trim cs = cs := by
  have hstart : trimStart cs = cs := by
    cases cs with
    | nil => rfl
    | cons c cs => exact trimStart_of_head (hfirst c rfl) cs
  rw [trim, hstart, trimEnd]
  rw [← List.head?_reverse] at hlast
  cases hrev : cs.reverse with
  | nil =>
      have hnil : cs = [] := by simpa using hrev
      subst hnil
      rfl
  | cons c rest =>
      rw [trimStart_of_head (hlast c (by rw [hrev]; rfl)) rest, ← hrev, List.reverse_reverse]

/-- A text is what trimming leaves of it, between blanks. -/
theorem exists_padding
    (cs : List Char) :
    ∃ before after,
      (∀ c ∈ before, isBlank c = true) ∧ (∀ c ∈ after, isBlank c = true) ∧
      cs = before ++ trim cs ++ after := by
  have hstart : ∀ ds : List Char, ∃ pad,
      (∀ c ∈ pad, isBlank c = true) ∧ ds = pad ++ trimStart ds := fun ds =>
    ⟨ds.takeWhile isBlank, List.all_eq_true.mp List.all_takeWhile,
      List.takeWhile_append_dropWhile.symm⟩
  obtain ⟨before, hbefore, hfront⟩ := hstart cs
  obtain ⟨pad, hpad, hback⟩ := hstart (trimStart cs).reverse
  refine ⟨before, pad.reverse, hbefore, by simpa using hpad, ?_⟩
  have hend : trimStart cs = trim cs ++ pad.reverse := by
    rw [trim, trimEnd, ← List.reverse_append, ← hback, List.reverse_reverse]
  rw [List.append_assoc, ← hend]
  exact hfront

/-- Only a text of blanks trims to nothing. -/
theorem trim_eq_nil_iff
    {cs : List Char} :
    trim cs = [] ↔ ∀ c ∈ cs, isBlank c = true := by
  constructor
  · intro h
    obtain ⟨before, after, hbefore, hafter, hcs⟩ := exists_padding cs
    rw [hcs, h, List.append_nil, List.forall_mem_append]
    exact ⟨hbefore, hafter⟩
  · exact trim_eq_nil_of_blank

@[simp] theorem trim_trim
    (cs : List Char) :
    trim (trim cs) = trim cs := by
  obtain ⟨before, after, hbefore, hafter, hcs⟩ := exists_padding cs
  have htrim : trim cs = trim (before ++ trim cs ++ after) := congrArg trim hcs
  rw [trim_append_of_blank hafter, trim_blank_append hbefore] at htrim
  exact htrim.symm

end Text
end ButtonCombo
