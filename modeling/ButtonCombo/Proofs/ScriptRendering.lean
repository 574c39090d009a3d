import ButtonCombo.Proofs.ScriptLines

/-!
# The ways to write a script

Frames can be written down in many ways.  A tick without input is a dash or a blank line, a
tick with input is its mask in print or any other text that is read as the mask; codes are
padded and followed by comments, comments have lines of their own, and lines have either
end.  All of them are read as the frames that they were written for, and nothing else is.

A blank line is a tick and a line with only a comment is none, so the blank line has no
remark.  The last line may lack its end, but then something has to be in it.

Main facts:

* `WritesLine.ticks`, `WritesLine.of_ticks`: what one line is read as;
* `Written.readLines`, `Written.of_readLines`: what the lines of a script are read as;
* `exists_written`: how printed masks make up a script;
* `parse_written`: a script is read as the frames it was written for, and has a tick for
  every line that holds more than a comment.
-/

namespace ButtonCombo
namespace Script

/-- The codes that stand for a frame. -/
inductive Denotes : Frame → List Char → Prop
  | dash :
      Denotes none ['-']
  | printed
      {mask : Mask}
      (hmask : mask ≠ Mask.empty) :
      Denotes (some mask) mask.text.toList
  | spelled
      {mask : Mask}
      {text : List Char}
      (hline : '\n' ∉ text)
      (hread : Mask.ofChars text = .ok mask) :
      Denotes (some mask) text

/-- Nothing, or a comment. -/
def IsRemark (remark : List Char) : Prop :=
  remark = [] ∨ ∃ comment, '\n' ∉ comment ∧ remark = '#' :: comment

/-- The line, without its end, is written for the frames: one frame, or none. -/
inductive WritesLine : List Frame → List Char → Prop
  | blank
      {pad : List Char}
      (hpad : IsPadding pad) :
      WritesLine [none] pad
  | comment
      {pad comment : List Char}
      (hpad : IsPadding pad)
      (hcomment : '\n' ∉ comment) :
      WritesLine [] (pad ++ '#' :: comment)
  | code
      {frame : Frame}
      {before text after remark : List Char}
      (hbefore : IsPadding before)
      (htext : Denotes frame text)
      (hafter : IsPadding after)
      (hremark : IsRemark remark) :
      WritesLine [frame] (before ++ text ++ after ++ remark)

/-- The script is written for the frames, line by line. -/
inductive Written : List Frame → List Char → Prop
  | nil :
      Written [] []
  | last
      {frames : List Frame}
      {line : List Char}
      (hline : WritesLine frames line)
      (hne : line ≠ []) :
      Written frames line
  | line
      {frames more : List Frame}
      {line ending rest : List Char}
      (hline : WritesLine frames line)
      (hending : Text.IsLineEnd ending)
      (hrest : Written more rest) :
      Written (frames ++ more) (line ++ ending ++ rest)

section Codes

variable {frame : Frame} {text : List Char}

/-- A printed mask has no character of its own besides letters, digits, underscores, plus
signs and dashes. -/
theorem not_mem_text
    {c : Char}
    (h : (Mask.isPartChar c || c = '+' || c = '-') = false)
    (mask : Mask) :
    c ∉ mask.text.toList := by
  intro hmem
  simp only [Bool.or_eq_false_iff, decide_eq_false_iff_not] at h
  rcases Mask.mem_text hmem with hpart | hplus | hdash
  · rw [hpart] at h
    cases h.1.1
  · exact h.1.2 hplus
  · exact h.2 hdash

theorem Denotes.newline_not_mem
    (h : Denotes frame text) :
    '\n' ∉ text := by
  cases h with
  | dash => decide
  | printed hmask => exact not_mem_text (by decide) _
  | spelled hline hread => exact hline

/-- No code has a number sign, so a comment ends it. -/
theorem Denotes.hash_not_mem
    (h : Denotes frame text) :
    '#' ∉ text := by
  cases h with
  | dash => decide
  | printed hmask => exact not_mem_text (by decide) _
  | spelled hline hread =>
      intro hmem
      rcases Mask.mem_of_ofChars_eq_ok hread hmem with hpart | hplus | hblank
      · exact absurd hpart (by decide)
      · exact absurd hplus (by decide)
      · exact absurd hblank (by decide)

/-- A line is read as the frame that its code stands for. -/
theorem Denotes.ticks
    (h : Denotes frame text)
    {line : List Char}
    (hcode : code line = Text.trim text) :
    Script.ticks line = .ok [frame] := by
  cases h with
  | dash => exact ticks_of_code_dash hcode
  | printed hmask =>
      refine ticks_of_read ?_
      rw [hcode, Mask.ofChars_trim]
      exact Mask.ofChars_text hmask
  | spelled hline hread =>
      refine ticks_of_read ?_
      rw [hcode, Mask.ofChars_trim]
      exact hread

end Codes

section Written

variable {frames : List Frame} {line script : List Char}

theorem IsRemark.newline_not_mem
    {remark : List Char}
    (h : IsRemark remark) :
    '\n' ∉ remark := by
  rcases h with rfl | ⟨comment, hcomment, rfl⟩
  · exact List.not_mem_nil
  · simp [hcomment]

/-- The code of a line is what is in front of the remark. -/
theorem IsRemark.code_append
    {body remark : List Char}
    (h : IsRemark remark)
    (hbody : '#' ∉ body) :
    code (body ++ remark) = Text.trim body := by
  rcases h with rfl | ⟨comment, -, rfl⟩
  · rw [List.append_nil, code_of_not_mem hbody]
  · exact code_remark hbody comment

theorem WritesLine.newline_not_mem
    (h : WritesLine frames line) :
    '\n' ∉ line := by
  cases h with
  | blank hpad => exact hpad.newline_not_mem
  | comment hpad hcomment => simp [hpad.newline_not_mem, hcomment]
  | code hbefore htext hafter hremark =>
      simp [hbefore.newline_not_mem, htext.newline_not_mem, hafter.newline_not_mem,
        hremark.newline_not_mem]

/-- A line is read as what it was written for. -/
theorem WritesLine.ticks
    (h : WritesLine frames line) :
    Script.ticks line = .ok frames := by
  cases h with
  | blank hpad =>
      have hcode : Script.code line = [] := by
        rw [code_of_not_mem hpad.hash_not_mem, Text.trim_eq_nil_of_blank hpad.isBlank]
      rw [ticks_of_code_nil hcode, if_neg hpad.hash_not_mem]
  | comment hpad hcomment =>
      exact ticks_of_isComment (isComment_iff.mpr ⟨_, _, hpad.isBlank, rfl⟩)
  | @code frame before text after remark hbefore htext hafter hremark =>
      refine htext.ticks ?_
      have hbody : '#' ∉ before ++ text ++ after := by
        simp [hbefore.hash_not_mem, htext.hash_not_mem, hafter.hash_not_mem]
      rw [hremark.code_append hbody, Text.trim_append_of_blank hafter.isBlank,
        Text.trim_blank_append hbefore.isBlank]

/-- A script is read as what it was written for. -/
theorem Written.readLines
    (h : Written frames script)
    (number : Nat) :
    Script.readLines number (Text.lines script) = .ok frames := by
  induction h generalizing number with
  | nil => rfl
  | last hline hne =>
      rw [Text.lines_of_not_mem hline.newline_not_mem hne, readLines_cons_eq_ok_iff]
      exact ⟨_, [], hline.ticks, rfl, (List.append_nil _).symm⟩
  | @line frames more line ending rest hline hending hrest ih =>
      obtain ⟨kept, hkept, hlines⟩ := exists_lines_line hline.newline_not_mem hending rest
      rw [hlines, readLines_cons_eq_ok_iff]
      exact ⟨frames, more, hkept.trans hline.ticks, ih (number + 1), rfl⟩

/-- A line is what is in front of its remark, and the remark. -/
theorem exists_remark
    (h : '\n' ∉ line) :
    ∃ body remark,
      '#' ∉ body ∧ '\n' ∉ body ∧ IsRemark remark ∧ line = body ++ remark ∧
      Script.code line = Text.trim body := by
  by_cases hhash : '#' ∈ line
  · obtain ⟨body, comment, rfl, hbody⟩ := List.eq_append_cons_of_mem hhash
    simp only [List.mem_append, List.mem_cons, not_or] at h
    exact ⟨body, '#' :: comment, hbody, h.1, Or.inr ⟨comment, h.2.2, rfl⟩, rfl,
      code_remark hbody comment⟩
  · exact ⟨line, [], hhash, h, Or.inl rfl, (List.append_nil line).symm, code_of_not_mem hhash⟩

/-- Blanks of a line are padding. -/
theorem isPadding_of_blank
    {pad : List Char}
    (h : ∀ c ∈ pad, Text.isBlank c = true)
    (hline : '\n' ∉ pad) :
    IsPadding pad := by
  intro c hc
  refine ⟨h c hc, ?_⟩
  rintro rfl
  exact hline hc

/-- A line that is read as one frame by its code is written with that code. -/
theorem WritesLine.of_code
    {frame : Frame}
    (h : '\n' ∉ line)
    (hcode : '\n' ∉ Script.code line → Denotes frame (Script.code line)) :
    WritesLine [frame] line := by
  obtain ⟨body, remark, -, hbody, hremark, rfl, htrim⟩ := exists_remark h
  obtain ⟨before, after, hbefore, hafter, hparts⟩ := Text.exists_padding body
  rw [htrim] at hcode
  rw [hparts] at hbody
  simp only [List.mem_append, not_or] at hbody
  rw [hparts]
  exact .code (isPadding_of_blank hbefore hbody.1.1) (hcode hbody.1.2)
    (isPadding_of_blank hafter hbody.2) hremark

/-- A line that is read is written for the frames that it is read as. -/
theorem WritesLine.of_ticks
    (hline : '\n' ∉ line)
    (h : Script.ticks line = .ok frames) :
    WritesLine frames line := by
  rcases ticks_eq_ok_iff.mp h with ⟨hnil, rfl⟩ | ⟨hdash, rfl⟩ | ⟨mask, hread, rfl⟩
  · split
    · rename_i hhash
      obtain ⟨pad, comment, hpad, rfl⟩ := isComment_iff.mp (isComment_iff_code.mpr ⟨hnil, hhash⟩)
      simp only [List.mem_append, List.mem_cons, not_or] at hline
      exact .comment (isPadding_of_blank hpad hline.1) hline.2.2
    · rename_i hhash
      rw [code_of_not_mem hhash, Text.trim_eq_nil_iff] at hnil
      exact .blank (isPadding_of_blank hnil hline)
  · refine .of_code hline fun _ => ?_
    rw [hdash]
    exact .dash
  · exact .of_code hline fun hcode => .spelled hcode hread

/-- A script whose lines are read is written for the frames that they are read as. -/
theorem Written.of_readLines
    {number : Nat}
    (h : Script.readLines number (Text.lines script) = .ok frames) :
    Written frames script := by
  -- on the length, since the first line is taken away as a whole
  induction hlength : script.length using Nat.strong_induction_on
    generalizing number frames script with
  | _ length ih =>
      by_cases hnewline : '\n' ∈ script
      · obtain ⟨line, rest, rfl, hline⟩ := List.eq_append_cons_of_mem hnewline
        obtain ⟨kept, hkept, hlines⟩ := exists_lines_line hline (Or.inl rfl) rest
        have hscript : line ++ '\n' :: rest = line ++ ['\n'] ++ rest := by simp
        rw [hscript, hlines] at h
        obtain ⟨part, more, hpart, hmore, rfl⟩ := readLines_cons_eq_ok_iff.mp h
        have hshorter : rest.length < length := by
          rw [← hlength, List.length_append, List.length_cons]
          omega
        rw [hscript]
        exact .line (.of_ticks hline (hkept.symm.trans hpart)) (Or.inl rfl) (ih rest.length hshorter hmore rfl)
      · cases script with
        | nil =>
            cases h
            exact .nil
        | cons c cs =>
            rw [Text.lines_of_not_mem hnewline (List.cons_ne_nil c cs)] at h
            obtain ⟨part, more, hpart, hmore, rfl⟩ := readLines_cons_eq_ok_iff.mp h
            cases hmore
            rw [List.append_nil]
            exact .last (.of_ticks hnewline hpart) (List.cons_ne_nil c cs)

/-- Frames can be written down with printed masks, unless one of them is the empty mask: its
print is the dash, which stands for a tick without input. -/
theorem exists_written
    (h : some Mask.empty ∉ frames) :
    ∃ script, Written frames script := by
  induction frames with
  | nil => exact ⟨[], .nil⟩
  | cons frame frames ih =>
      rw [List.mem_cons, not_or] at h
      obtain ⟨rest, hrest⟩ := ih h.2
      have hcode : ∃ text, Denotes frame text := by
        cases frame with
        | none => exact ⟨_, .dash⟩
        | some mask => exact ⟨_, .printed fun hmask => h.1 (congrArg some hmask.symm)⟩
      obtain ⟨text, htext⟩ := hcode
      have hnone : IsPadding [] := fun c hc => by cases hc
      have hline : WritesLine [frame] ([] ++ text ++ [] ++ []) :=
        .code hnone htext hnone (Or.inl rfl)
      exact ⟨_, .line hline (Or.inl rfl) hrest⟩

end Written

/-- A script is read as the frames for which it was written, in whichever way, and there is
such a script for any frames without an empty mask.  An accepted script has a tick for each
of its lines, except for the lines that hold only a comment. -/
theorem parse_written :
    (∀ (frames : List Frame) (script : String),
      parse script = .ok frames ↔ Written frames script.toList) ∧
    (∀ frames : List Frame,
      some Mask.empty ∉ frames → ∃ script : String, Written frames script.toList) ∧
    ∀ (frames : List Frame) (script : String),
      parse script = .ok frames →
      frames.length + (Text.lines script.toList).countP isComment =
        (Text.lines script.toList).length := by
  refine ⟨fun frames script => ?_, ?_, fun frames script h => length_readLines h⟩
  · exact ⟨fun h => .of_readLines h, fun h => h.readLines 1⟩
  · intro frames h
    obtain ⟨script, hscript⟩ := exists_written h
    refine ⟨String.ofList script, ?_⟩
    rwa [String.toList_ofList]

example :
    parse " a+r # both\r\n\n  # pause\n-" = .ok [some ⟨0x0120⟩, none, none] := by
  decide

end Script
end ButtonCombo
