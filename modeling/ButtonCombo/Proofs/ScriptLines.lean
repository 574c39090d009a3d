import ButtonCombo.Proofs.MaskGrammar
import ButtonCombo.Script

/-!
# The lines of a script

A line is read on its own: what stands in front of the first number sign is its code, and
the code alone decides, except that a line without code is a tick only if it has no comment
either.  A carriage return in front of the line end is padding, or a part of the comment,
and makes no difference.

Lines are read in turn up to the first one that cannot be read.  The number in the report
is that of the line, so it grows with every line in front, whatever that line holds.

Main facts:

* `ticks_eq_ok_iff`, `ticks_eq_error_iff`: what a line is read as;
* `exists_lines_line`: the end of a line makes no difference;
* `readLines_eq_ok_iff`, `readLines_eq_error_iff`: the two outcomes for a list of lines;
* `readLines_shift`: lines that are counted from another number;
* `readLines_insert`: one more line that is no tick.
-/

namespace ButtonCombo
namespace Script

/-- Padding inside a line. -/
def IsPadding (pad : List Char) : Prop :=
  ∀ c ∈ pad, Text.isBlank c = true ∧ c ≠ '\n'

theorem IsPadding.isBlank
    {pad : List Char}
    (h : IsPadding pad) :
    ∀ c ∈ pad, Text.isBlank c = true :=
  fun c hc => (h c hc).1

theorem IsPadding.newline_not_mem
    {pad : List Char}
    (h : IsPadding pad) :
    '\n' ∉ pad :=
  fun hmem => (h '\n' hmem).2 rfl

theorem IsPadding.hash_not_mem
    {pad : List Char}
    (h : IsPadding pad) :
    '#' ∉ pad :=
  fun hmem => absurd (h '#' hmem).1 (by decide)

/-- A line that holds only a comment. -/
def isComment (line : List Char) : Bool :=
  (Text.trimStart line).head? == some '#'

/-- The error that is reported with more lines in front. -/
def Error.after
    (error : Error)
    (count : Nat) : Error :=
  ⟨error.line + count, error.cause⟩

section Lines

variable {line : List Char}

theorem forall_ne_hash
    (h : '#' ∉ line) :
    ∀ c ∈ line, (c != '#') = true := by
  intro c hc
  rw [bne_iff_ne]
  rintro rfl
  exact h hc

/-- The code of a line ends where its comment starts. -/
theorem code_remark
    {body : List Char}
    (h : '#' ∉ body)
    (comment : List Char) :
    code (body ++ '#' :: comment) = Text.trim body := by
  rw [code, List.takeWhile_append_of_pos (forall_ne_hash h), List.takeWhile_cons_of_neg (by decide),
    List.append_nil]

/-- A line without a comment is code. -/
theorem code_of_not_mem
    (h : '#' ∉ line) :
    code line = Text.trim line := by
  rw [code, List.takeWhile_eq_self_iff.mpr (forall_ne_hash h)]

/-- A comment takes up the line if only padding is in front of it. -/
theorem isComment_iff :
    isComment line = true ↔
      ∃ pad comment, (∀ c ∈ pad, Text.isBlank c = true) ∧ line = pad ++ '#' :: comment := by
  rw [isComment, beq_iff_eq, List.head?_eq_some_iff]
  constructor
  · rintro ⟨comment, hcomment⟩
    refine ⟨line.takeWhile Text.isBlank, comment, List.all_eq_true.mp List.all_takeWhile, ?_⟩
    rw [← hcomment]
    exact List.takeWhile_append_dropWhile.symm
  · rintro ⟨pad, comment, hpad, rfl⟩
    refine ⟨comment, ?_⟩
    rw [Text.trimStart_blank_append hpad, Text.trimStart_of_head (by decide)]

/-- A line that holds only a comment has no code but a number sign. -/
theorem isComment_iff_code :
    isComment line = true ↔ code line = [] ∧ '#' ∈ line := by
  rw [isComment_iff]
  constructor
  · rintro ⟨pad, comment, hpad, rfl⟩
    have hhash : '#' ∉ pad := fun hmem => absurd (hpad '#' hmem) (by decide)
    exact ⟨(code_remark hhash comment).trans (Text.trim_eq_nil_of_blank hpad), by simp⟩
  · rintro ⟨hcode, hmem⟩
    obtain ⟨body, comment, rfl, hbody⟩ := List.eq_append_cons_of_mem hmem
    rw [code_remark hbody] at hcode
    exact ⟨body, comment, Text.trim_eq_nil_iff.mp hcode, rfl⟩

theorem ticks_of_code_nil
    (h : code line = []) :
    ticks line = .ok (if '#' ∈ line then [] else [none]) := by
  simp only [ticks, h]

theorem ticks_of_code_dash
    (h : code line = ['-']) :
    ticks line = .ok [none] := by
  simp only [ticks, h]

/-- Any other code is a mask. -/
theorem ticks_of_code
    (hnil : code line ≠ [])
    (hdash : code line ≠ ['-']) :
    ticks line = (Mask.ofChars (code line)).map fun mask => [some mask] := by
  unfold ticks
  split
  next h => exact absurd h hnil
  next h => exact absurd h hdash
  next => rfl

/-- No mask text is empty. -/
theorem code_ne_nil_of_read
    {mask : Mask}
    (h : Mask.ofChars (code line) = .ok mask) :
    code line ≠ [] := by
  intro hcode
  rw [hcode, Mask.ofChars_blank (by simp)] at h
  cases h

/-- A mask text is the tick of its mask. -/
theorem ticks_of_read
    {mask : Mask}
    (h : Mask.ofChars (code line) = .ok mask) :
    ticks line = .ok [some mask] := by
  have hdash : code line ≠ ['-'] := by
    intro hcode
    rw [hcode] at h
    cases h
  rw [ticks_of_code (code_ne_nil_of_read h) hdash, h]
  rfl

/-- A line is reported if its code is none of those without a mask and no mask text. -/
theorem ticks_eq_error_iff
    {cause : UnknownButton} :
    ticks line = .error cause ↔
      code line ≠ [] ∧ code line ≠ ['-'] ∧ Mask.ofChars (code line) = .error cause := by
  by_cases hnil : code line = []
  · simp [ticks_of_code_nil hnil, hnil]
  by_cases hdash : code line = ['-']
  · simp [ticks_of_code_dash hdash, hdash]
  rw [ticks_of_code hnil hdash]
  cases hread : Mask.ofChars (code line) <;> simp [Except.map, hnil, hdash]

/-- The ticks of a line, by its code. -/
theorem ticks_eq_ok_iff
    {frames : List Frame} :
    ticks line = .ok frames ↔
      (code line = [] ∧ frames = if '#' ∈ line then [] else [none]) ∨
      (code line = ['-'] ∧ frames = [none]) ∨
      ∃ mask, Mask.ofChars (code line) = .ok mask ∧ frames = [some mask] := by
  constructor
  · intro h
    by_cases hnil : code line = []
    · rw [ticks_of_code_nil hnil] at h
      exact Or.inl ⟨hnil, (Except.ok.inj h).symm⟩
    by_cases hdash : code line = ['-']
    · rw [ticks_of_code_dash hdash] at h
      exact Or.inr (Or.inl ⟨hdash, (Except.ok.inj h).symm⟩)
    rw [ticks_of_code hnil hdash] at h
    cases hread : Mask.ofChars (code line) with
    | error cause =>
        rw [hread] at h
        cases h
    | ok mask =>
        rw [hread] at h
        exact Or.inr (Or.inr ⟨mask, rfl, (Except.ok.inj h).symm⟩)
  · rintro (⟨hnil, rfl⟩ | ⟨hdash, rfl⟩ | ⟨mask, hread, rfl⟩)
    · exact ticks_of_code_nil hnil
    · exact ticks_of_code_dash hdash
    · exact ticks_of_read hread

/-- A line is read if it has no code, a dash, or a mask text. -/
theorem exists_ticks_iff :
    (∃ frames, ticks line = .ok frames) ↔
      code line = [] ∨ code line = ['-'] ∨ ∃ mask, Mask.ofChars (code line) = .ok mask := by
  simp only [ticks_eq_ok_iff, exists_or, exists_and_left, exists_eq, and_true]
  refine or_congr_right (or_congr_right ?_)
  rw [exists_comm]
  simp only [exists_and_left, exists_eq, and_true]

/-- A line is one tick, unless it holds only a comment. -/
theorem length_ticks
    {frames : List Frame}
    (h : ticks line = .ok frames) :
    frames.length = if isComment line then 0 else 1 := by
  have hcode : code line ≠ [] → isComment line = false := by
    intro hne
    rw [Bool.eq_false_iff]
    exact fun hcomment => hne (isComment_iff_code.mp hcomment).1
  rcases ticks_eq_ok_iff.mp h with ⟨hnil, rfl⟩ | ⟨hdash, rfl⟩ | ⟨mask, hread, rfl⟩
  · have hcomment : isComment line = true ↔ '#' ∈ line := by
      rw [isComment_iff_code, and_iff_right hnil]
    simp only [hcomment]
    split <;> rfl
  · rw [hcode (by simp [hdash])]
    rfl
  · rw [hcode (code_ne_nil_of_read hread)]
    rfl

/-- A line that holds only a comment is no tick. -/
theorem ticks_of_isComment
    (h : isComment line = true) :
    ticks line = .ok [] := by
  obtain ⟨hcode, hmem⟩ := isComment_iff_code.mp h
  rw [ticks_of_code_nil hcode, if_pos hmem]

/-- A carriage return at the end of a line is padding or a part of the comment. -/
theorem ticks_append_return
    (line : List Char) :
    ticks (line ++ ['\r']) = ticks line := by
  have hmem : '#' ∈ line ++ ['\r'] ↔ '#' ∈ line := by simp
  have hcode : code (line ++ ['\r']) = code line := by
    by_cases hhash : '#' ∈ line
    · obtain ⟨body, comment, rfl, hbody⟩ := List.eq_append_cons_of_mem hhash
      rw [List.append_assoc, List.cons_append, code_remark hbody, code_remark hbody]
    · have hblank : Text.isBlank '\r' = true := by decide
      rw [code_of_not_mem (mt hmem.mp hhash), code_of_not_mem hhash,
        Text.trim_append_of_blank (by simpa using hblank)]
  simp only [ticks, hcode, hmem]

/-- A line with either end is one line with the same ticks. -/
theorem exists_lines_line
    {ending : List Char}
    (h : '\n' ∉ line)
    (hending : Text.IsLineEnd ending)
    (cs : List Char) :
    ∃ kept, ticks kept = ticks line ∧ Text.lines (line ++ ending ++ cs) = kept :: Text.lines cs := by
  obtain ⟨kept, hkept, hlines⟩ := Text.exists_kept h hending cs
  refine ⟨kept, ?_, hlines⟩
  rcases hkept with rfl | rfl
  · rfl
  · exact (ticks_append_return kept).symm

end Lines

section ReadLines

variable {number : Nat} {lines front back : List (List Char)}

theorem readLines_cons_eq_ok_iff
    {line : List Char}
    {frames : List Frame} :
    readLines number (line :: lines) = .ok frames ↔
      ∃ part more,
        ticks line = .ok part ∧ readLines (number + 1) lines = .ok more ∧
        frames = part ++ more := by
  constructor
  · intro h
    cases hline : ticks line with
    | error cause => simp [readLines, hline] at h
    | ok part =>
        cases hrest : readLines (number + 1) lines with
        | error error => simp [readLines, hline, hrest, Except.map] at h
        | ok more =>
            simp only [readLines, hline, hrest, Except.map, Except.ok.injEq] at h
            exact ⟨part, more, rfl, rfl, h.symm⟩
  · rintro ⟨part, more, hline, hrest, rfl⟩
    simp only [readLines, hline, hrest, Except.map]

/-- Lines that are all read are the ticks of each of them in turn. -/
theorem readLines_eq_ok
    {parts : List (List Frame)}
    (h : List.Forall₂ (fun line part => ticks line = .ok part) lines parts)
    (number : Nat) :
    readLines number lines = .ok parts.flatten := by
  induction h generalizing number with
  | nil => rfl
  | cons hline _ ih =>
      simp only [readLines, hline, ih, Except.map, List.flatten_cons]

/-- The first line that is not read is reported with its number, whatever comes after it. -/
theorem readLines_bad
    {line : List Char}
    {cause : UnknownButton}
    (hfront : ∀ known ∈ front, ∃ frames, ticks known = .ok frames)
    (hline : ticks line = .error cause)
    (number : Nat)
    (back : List (List Char)) :
    readLines number (front ++ line :: back) = .error ⟨number + front.length, cause⟩ := by
  induction front generalizing number with
  | nil => simp only [List.nil_append, readLines, hline, List.length_nil, Nat.add_zero]
  | cons known front ih =>
      obtain ⟨⟨frames, hframes⟩, hrest⟩ := List.forall_mem_cons.mp hfront
      have hcount : number + 1 + front.length = number + (front.length + 1) := by omega
      simp only [List.cons_append, readLines, hframes, ih hrest, Except.map, hcount,
        List.length_cons]

/-- Either all lines are read, or one of them is the first that is not. -/
theorem ticks_or_bad
    (lines : List (List Char)) :
    (∃ parts, List.Forall₂ (fun line part => ticks line = .ok part) lines parts) ∨
      ∃ front line back cause,
        lines = front ++ line :: back ∧
        (∀ known ∈ front, ∃ frames, ticks known = .ok frames) ∧
        ticks line = .error cause := by
  rcases Text.forall₂_or_first (fun line part => ticks line = .ok part) lines with
    hread | ⟨front, line, back, hlines, hfront, hline⟩
  · exact Or.inl hread
  · cases hreport : ticks line with
    | error cause => exact Or.inr ⟨front, line, back, cause, hlines, hfront, hreport⟩
    | ok frames => exact absurd hreport (hline frames)

theorem readLines_eq_ok_iff
    {frames : List Frame} :
    readLines number lines = .ok frames ↔
      ∃ parts,
        List.Forall₂ (fun line part => ticks line = .ok part) lines parts ∧
        frames = parts.flatten := by
  constructor
  · intro h
    rcases ticks_or_bad lines with ⟨parts, hparts⟩ | ⟨front, line, back, cause, rfl, hfront, hline⟩
    · rw [readLines_eq_ok hparts] at h
      cases h
      exact ⟨parts, hparts, rfl⟩
    · rw [readLines_bad hfront hline] at h
      cases h
  · rintro ⟨parts, hparts, rfl⟩
    exact readLines_eq_ok hparts number

theorem readLines_eq_error_iff
    {error : Error} :
    readLines number lines = .error error ↔
      ∃ front line back cause,
        lines = front ++ line :: back ∧
        (∀ known ∈ front, ∃ frames, ticks known = .ok frames) ∧
        ticks line = .error cause ∧
        error = ⟨number + front.length, cause⟩ := by
  constructor
  · intro h
    rcases ticks_or_bad lines with ⟨parts, hparts⟩ | ⟨front, line, back, cause, rfl, hfront, hline⟩
    · rw [readLines_eq_ok hparts] at h
      cases h
    · rw [readLines_bad hfront hline] at h
      cases h
      exact ⟨front, line, back, cause, rfl, hfront, hline, rfl⟩
  · rintro ⟨front, line, back, cause, rfl, hfront, hline, rfl⟩
    exact readLines_bad hfront hline number back

/-- The reported line is one of those that were to be read. -/
theorem line_bounds
    {error : Error}
    (h : readLines number lines = .error error) :
    number ≤ error.line ∧ error.line < number + lines.length := by
  obtain ⟨front, line, back, cause, rfl, -, -, rfl⟩ := readLines_eq_error_iff.mp h
  simp only [List.length_append, List.length_cons]
  omega

/-- The ticks of lines are as many as the lines that hold more than a comment. -/
theorem length_readLines
    {frames : List Frame}
    (h : readLines number lines = .ok frames) :
    frames.length + lines.countP isComment = lines.length := by
  obtain ⟨parts, hparts, rfl⟩ := readLines_eq_ok_iff.mp h
  clear h
  induction hparts with
  | nil => rfl
  | @cons line part lines parts hline _ ih =>
      have hlength := length_ticks hline
      rw [List.flatten_cons, List.length_append, List.countP_cons, List.length_cons, hlength]
      split <;> omega

/-- Lines that are counted from a later number are reported with a later number. -/
theorem readLines_shift
    (number more : Nat)
    (lines : List (List Char)) :
    readLines (number + more) lines =
      (readLines number lines).mapError (·.after more) := by
  rcases ticks_or_bad lines with ⟨parts, hparts⟩ | ⟨front, line, back, cause, rfl, hfront, hline⟩
  · rw [readLines_eq_ok hparts, readLines_eq_ok hparts]
    rfl
  · rw [readLines_bad hfront hline, readLines_bad hfront hline, Nat.add_right_comm]
    rfl

/-- One more line that is no tick moves the reports about the lines behind it. -/
theorem readLines_insert
    {line : List Char}
    (h : ticks line = .ok [])
    (number : Nat)
    (front back : List (List Char)) :
    readLines number (front ++ line :: back) =
      (readLines number (front ++ back)).mapError fun error =>
        if error.line < number + front.length then error else error.after 1 := by
  rw [readLines_append, readLines_append]
  -- an error of the front stays, and one of the back is at or behind the new line
  cases hfront : readLines number front with
  | error error =>
      have hbefore := (line_bounds hfront).2
      simp only [Except.mapError, if_pos hbefore]
  | ok frames =>
      have hline : readLines (number + front.length) (line :: back) =
          readLines (number + front.length + 1) back := by
        rw [readLines, h]
        cases readLines (number + front.length + 1) back <;> rfl
      simp only [hline, readLines_shift (number + front.length) 1 back]
      cases hback : readLines (number + front.length) back with
      | error error =>
          have hbehind := (line_bounds hback).1
          simp only [Except.mapError, Except.map, if_neg (Nat.not_lt.mpr hbehind)]
      | ok more => rfl

end ReadLines
end Script
end ButtonCombo
