import ButtonCombo.Proofs.ScriptLines

/-!
# Scripts one after the other

Two scripts make up one if the first of them ends with a line.  The ticks of the second
follow those of the first, and its errors move by the lines of the first, whether these are
ticks or not.  The errors of the first stay as they are, since the second is not looked at.

An error is about the first line whose code is neither empty, nor a dash, nor a mask text,
and says what is wrong with that text.  A line with only a comment moves the errors about
the lines behind it and does nothing else.

Main facts:

* `parse_append_of_endsLine`: two scripts one after the other;
* `parse_eq_error_iff`: which line an error is about;
* `parse_insert_comment`: one more line with a comment;
* `parse_concatenated`: all of this together.
-/

namespace ButtonCombo
namespace Script

/-- A line that can be read: it has no code, a dash, or a mask text. -/
def IsReadable (line : List Char) : Prop :=
  code line = [] ∨ code line = ['-'] ∨ ∃ mask, Mask.ofChars (code line) = .ok mask

/-- A line with only a comment, with its end. -/
def IsCommentLine (text : List Char) : Prop :=
  ∃ pad comment ending,
    IsPadding pad ∧ '\n' ∉ comment ∧ Text.IsLineEnd ending ∧
    text = pad ++ '#' :: comment ++ ending

/-- A line with only a comment is one line, and no tick. -/
theorem exists_lines_comment
    {text : List Char}
    (h : IsCommentLine text)
    (cs : List Char) :
    ∃ line, ticks line = .ok [] ∧ Text.lines (text ++ cs) = line :: Text.lines cs := by
  obtain ⟨pad, comment, ending, hpad, hcomment, hending, rfl⟩ := h
  have hnewline : '\n' ∉ pad ++ '#' :: comment := by simp [hpad.newline_not_mem, hcomment]
  have hticks : ticks (pad ++ '#' :: comment) = .ok [] :=
    ticks_of_isComment (isComment_iff.mpr ⟨pad, comment, hpad.isBlank, rfl⟩)
  obtain ⟨line, hline, hlines⟩ := exists_lines_line hnewline hending cs
  exact ⟨line, hline.trans hticks, hlines⟩

section Strings

variable {a : String}

theorem parse_eq_readLines
    (script : String) :
    parse script = readLines 1 (Text.lines script.toList) := by
  rfl

theorem lines_toList_append
    (h : Text.EndsLine a.toList)
    (b : String) :
    Text.lines (a ++ b).toList = Text.lines a.toList ++ Text.lines b.toList := by
  rw [String.toList_append, Text.lines_append_of_endsLine h]

/-- A script is read up to its first error, and the one behind it with its lines counted on. -/
theorem parse_append_of_endsLine
    (h : Text.EndsLine a.toList)
    (b : String) :
    parse (a ++ b) =
      match parse a with
      | .error error => .error error
      | .ok frames =>
          match parse b with
          | .error error => .error (error.after (Text.lines a.toList).length)
          | .ok more => .ok (frames ++ more) := by
  rw [parse_eq_readLines, parse_eq_readLines a, parse_eq_readLines b, lines_toList_append h,
    readLines_append, readLines_shift]
  cases readLines 1 (Text.lines a.toList) with
  | error error => rfl
  | ok frames => cases readLines 1 (Text.lines b.toList) <;> rfl

/-- An error is about the first line that cannot be read, and says why. -/
theorem parse_eq_error_iff
    {error : Error} :
    parse a = .error error ↔
      ∃ front line back cause,
        Text.lines a.toList = front ++ line :: back ∧
        (∀ known ∈ front, IsReadable known) ∧
        code line ≠ [] ∧ code line ≠ ['-'] ∧ Mask.ofChars (code line) = .error cause ∧
        error = ⟨front.length + 1, cause⟩ := by
  refine readLines_eq_error_iff.trans ?_
  refine exists_congr fun front => exists_congr fun line => exists_congr fun back =>
    exists_congr fun cause => and_congr_right fun _ => ?_
  rw [ticks_eq_error_iff, Nat.add_comm 1, and_assoc, and_assoc]
  exact and_congr_left fun _ => forall₂_congr fun known _ => exists_ticks_iff

/-- A line with only a comment is counted and otherwise ignored. -/
theorem parse_insert_comment
    (h : Text.EndsLine a.toList)
    {c : String}
    (hc : IsCommentLine c.toList)
    (b : String) :
    parse (a ++ c ++ b) =
      (parse (a ++ b)).mapError fun error =>
        if error.line ≤ (Text.lines a.toList).length then error else error.after 1 := by
  obtain ⟨line, hticks, hline⟩ := exists_lines_comment hc b.toList
  have hwith : Text.lines (a ++ c ++ b).toList =
      Text.lines a.toList ++ line :: Text.lines b.toList := by
    rw [String.append_assoc, lines_toList_append h, String.toList_append, hline]
  rw [parse_eq_readLines, parse_eq_readLines (a ++ b), hwith, lines_toList_append h,
    readLines_insert hticks]
  simp only [Nat.add_comm 1, Nat.lt_succ_iff]

end Strings

/-- Scripts can be put one after the other.  If the first one ends with a line, the ticks of
the second follow those of the first, the errors of the first are kept, and the errors of the
second move by the number of lines of the first.  An error is about the first line that
cannot be read, and is that of its text.  A line with only a comment moves the errors about
the lines behind it, and changes nothing else. -/
theorem parse_concatenated
    (a b : String) :
    (Text.EndsLine a.toList →
      (∀ frames more : List Frame,
        parse a = .ok frames → parse b = .ok more → parse (a ++ b) = .ok (frames ++ more)) ∧
      (∀ error : Error, parse a = .error error → parse (a ++ b) = .error error) ∧
      (∀ (frames : List Frame) (number : Nat) (cause : UnknownButton),
        parse a = .ok frames →
        parse b = .error ⟨number, cause⟩ →
        parse (a ++ b) = .error ⟨number + (Text.lines a.toList).length, cause⟩) ∧
      ∀ c : String,
        IsCommentLine c.toList →
        parse (a ++ c ++ b) =
          (parse (a ++ b)).mapError fun error =>
            if error.line ≤ (Text.lines a.toList).length then error else error.after 1) ∧
    ∀ error : Error,
      (parse a = .error error ↔
        ∃ front line back cause,
          Text.lines a.toList = front ++ line :: back ∧
          (∀ known ∈ front, IsReadable known) ∧
          code line ≠ [] ∧ code line ≠ ['-'] ∧ Mask.ofChars (code line) = .error cause ∧
          error = ⟨front.length + 1, cause⟩) ∧
      error.message = "line " ++ toString error.line ++ ": " ++ error.cause.message := by
  refine ⟨fun h => ⟨?_, ?_, ?_, ?_⟩, fun error => ⟨parse_eq_error_iff, rfl⟩⟩
  · intro frames more ha hb
    rw [parse_append_of_endsLine h, ha, hb]
  · intro error ha
    rw [parse_append_of_endsLine h, ha]
  · intro frames number cause ha hb
    rw [parse_append_of_endsLine h, ha, hb]
    rfl
  · intro c hc
    exact parse_insert_comment h hc b

end Script
end ButtonCombo
