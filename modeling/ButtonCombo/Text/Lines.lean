/-!
# Lines of a text

A line ends at a line feed, or at a carriage return with a line feed behind it.  The
last line may lack its end, and a text that ends in a line feed has no empty line after
it.  A carriage return anywhere else is a character of its line.

Main facts:

* `lines_line`, `lines_line_return`: one line with either end is one line;
* `exists_kept`: what is left of a line that may have a carriage return of its own;
* `lines_append_of_endsLine`: a text that ends in a line feed contributes its own lines,
  whatever follows.
-/

namespace ButtonCombo
namespace Text

/-- The lines of a text, without their ends. -/
def lines : List Char → List (List Char)
  | [] => []
  | c :: cs =>
      if c = '\n' then
        [] :: lines cs
      else if c = '\r' ∧ cs.head? = some '\n' then
        lines cs
      else
        match lines cs with
        | [] => [[c]]
        | line :: rest => (c :: line) :: rest

@[simp] theorem lines_nil :
    lines [] = [] := by
  rfl

@[simp] theorem lines_newline
    (cs : List Char) :
    lines ('\n' :: cs) = [] :: lines cs := by
  simp [lines]

/-- Only the empty text has no line. -/
@[simp] theorem lines_eq_nil_iff
    {cs : List Char} :
    lines cs = [] ↔ cs = [] := by
  constructor
  · intro h
    cases cs with
    | nil => rfl
    | cons c cs =>
        by_cases hreturn : c = '\r' ∧ cs.head? = some '\n'
        · obtain ⟨rfl, hhead⟩ := hreturn
          obtain ⟨rest, rfl⟩ := List.head?_eq_some_iff.mp hhead
          simp [lines] at h
        · rw [lines, if_neg hreturn] at h
          split at h
          · cases h
          · split at h <;> cases h
  · rintro rfl
    rfl

/-- A line and the line feed at its end stand in front of the lines that follow. -/
theorem lines_line
    {line : List Char}
    (h : '\n' ∉ line)
    (hlast : line.getLast? ≠ some '\r')
    (cs : List Char) :
    lines (line ++ '\n' :: cs) = line :: lines cs := by
  induction line with
  | nil => exact lines_newline cs
  | cons c line ih =>
      simp only [List.mem_cons, not_or] at h
      have hc : c ≠ '\n' := fun e => h.1 e.symm
      cases line with
      | nil =>
          have hreturn : c ≠ '\r' := by simpa using hlast
          simp [lines, hc, hreturn]
      | cons d line =>
          have hd : d ≠ '\n' := fun e => h.2 (by simp [e])
          rw [List.cons_append, lines, if_neg hc, if_neg (by simp [hd]), ih h.2 hlast]

/-- A carriage return in front of the line feed belongs to the end of the line. -/
theorem lines_line_return
    {line : List Char}
    (h : '\n' ∉ line)
    (cs : List Char) :
    lines (line ++ '\r' :: '\n' :: cs) = line :: lines cs := by
  induction line with
  | nil => simp [lines]
  | cons c line ih =>
      simp only [List.mem_cons, not_or] at h
      have hc : c ≠ '\n' := fun e => h.1 e.symm
      have hhead : (line ++ '\r' :: '\n' :: cs).head? ≠ some '\n' := by
        cases line with
        | nil => simp
        | cons d line =>
            have hd : d ≠ '\n' := fun e => h.2 (by simp [e])
            simp [hd]
      rw [List.cons_append, lines, if_neg hc, if_neg (fun e => hhead e.2), ih h.2]

/-- A last line without an end is a line of its own unless it is empty. -/
theorem lines_of_not_mem
    {line : List Char}
    (h : '\n' ∉ line)
    (hne : line ≠ []) :
    lines line = [line] := by
  induction line with
  | nil => exact absurd rfl hne
  | cons c line ih =>
      simp only [List.mem_cons, not_or] at h
      have hc : c ≠ '\n' := fun e => h.1 e.symm
      cases line with
      | nil => simp [lines, hc]
      | cons d line =>
          have hd : d ≠ '\n' := fun e => h.2 (by simp [e])
          rw [lines, if_neg hc, if_neg (by simp [hd]), ih h.2 (by simp)]

/-- The lines before a line feed do not depend on what follows it. -/
theorem lines_append
    (a b : List Char) :
    lines (a ++ '\n' :: b) = lines (a ++ ['\n']) ++ lines b := by
  induction a with
  | nil => simp
  | cons c a ih =>
      by_cases hc : c = '\n'
      · subst hc
        simp [ih]
      · have hhead : (a ++ '\n' :: b).head? = (a ++ ['\n']).head? := by
          cases a <;> rfl
        simp only [List.cons_append, lines, if_neg hc, hhead, ih]
        split
        · rfl
        · cases hl : lines (a ++ ['\n']) with
          | nil => simp at hl
          | cons line rest => rfl

/-- Nothing, or a text with a line feed at its end. -/
def EndsLine (text : List Char) : Prop :=
  text = [] ∨ text.getLast? = some '\n'

/-- A text that ends with a line contributes its own lines. -/
theorem lines_append_of_endsLine
    {a : List Char}
    (h : EndsLine a)
    (b : List Char) :
    lines (a ++ b) = lines a ++ lines b := by
  rcases h with rfl | hlast
  · rfl
  · obtain ⟨front, rfl⟩ := List.getLast?_eq_some_iff.mp hlast
    rw [List.append_assoc]
    exact lines_append front b

/-- The two ends of a line. -/
def IsLineEnd (ending : List Char) : Prop :=
  ending = ['\n'] ∨ ending = ['\r', '\n']

/-- A line is kept with everything in it, except that a carriage return at its end is taken
for a part of the line end. -/
theorem exists_kept
    {line ending : List Char}
    (h : '\n' ∉ line)
    (hend : IsLineEnd ending)
    (cs : List Char) :
    ∃ kept,
      (line = kept ∨ line = kept ++ ['\r']) ∧
      lines (line ++ ending ++ cs) = kept :: lines cs := by
  rcases hend with rfl | rfl
  · by_cases hlast : line.getLast? = some '\r'
    · obtain ⟨kept, rfl⟩ := List.getLast?_eq_some_iff.mp hlast
      have hkept : '\n' ∉ kept := fun hmem => h (List.mem_append_left _ hmem)
      refine ⟨kept, Or.inr rfl, ?_⟩
      simpa using lines_line_return hkept cs
    · refine ⟨line, Or.inl rfl, ?_⟩
      simpa using lines_line h hlast cs
  · refine ⟨line, Or.inl rfl, ?_⟩
    simpa using lines_line_return h cs

end Text
end ButtonCombo
