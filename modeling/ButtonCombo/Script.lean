import ButtonCombo.Mask.Text
import ButtonCombo.Text.Lines

/-!
# Input scripts

A script records input, one tick per line.  A line holds a mask, or a dash or nothing
for a tick without input.  A number sign starts a comment; a line that holds only a
comment is no tick.

Lines are counted from one, comments and all, so that an error names the line where
an editor shows it.

Main facts:

* `readLines_append`: lines are read one after the other.
-/

namespace ButtonCombo

/-- What a pad reports in one tick of a script; `none` is a tick without input. -/
abbrev Frame : Type :=
  Option Mask

namespace Script

/-- A line that cannot be read. -/
structure Error where
  line : Nat
  cause : UnknownButton
  deriving DecidableEq

/-- The error in words. -/
def Error.message (error : Error) : String :=
  "line " ++ toString error.line ++ ": " ++ error.cause.message

/-- The line without its comment and its padding. -/
def code (line : List Char) : List Char :=
  Text.trim (line.takeWhile (· != '#'))

/-- The ticks that a line stands for: none if it holds only a comment, else one. -/
def ticks (line : List Char) : Except UnknownButton (List Frame) :=
  match code line with
  | [] => .ok (if '#' ∈ line then [] else [none])
  | ['-'] => .ok [none]
  | text => (Mask.ofChars text).map fun mask => [some mask]

/-- The ticks of a list of lines, of which the first has the given number. -/
def readLines
    (number : Nat) :
    List (List Char) → Except Error (List Frame)
  | [] => .ok []
  | line :: rest =>
      match ticks line with
      | .error cause => .error ⟨number, cause⟩
      | .ok frames => (readLines (number + 1) rest).map (frames ++ ·)

/-- The ticks of a script given as characters. -/
def ofChars (script : List Char) : Except Error (List Frame) :=
  readLines 1 (Text.lines script)

/-- The ticks of a script. -/
def parse (script : String) : Except Error (List Frame) :=
  ofChars script.toList

@[simp] theorem readLines_nil
    (number : Nat) :
    readLines number [] = .ok [] := by
  rfl

/-- Lines are read one after the other, and the first error ends the reading. -/
theorem readLines_append
    (number : Nat)
    (front back : List (List Char)) :
    readLines number (front ++ back) =
      match readLines number front with
      | .error error => .error error
      | .ok frames => (readLines (number + front.length) back).map (frames ++ ·) := by
  induction front generalizing number with
  | nil =>
      cases h : readLines number back <;> simp [h, Except.map]
  | cons line front ih =>
      simp only [List.cons_append, readLines]
      cases ticks line with
      | error cause => rfl
      | ok frames =>
          have hcount : number + 1 + front.length = number + (line :: front).length := by
            simp only [List.length_cons]
            omega
          simp only [ih, hcount]
          cases readLines (number + 1) front with
          | error error => rfl
          | ok more =>
              simp only [Except.map]
              cases readLines (number + (line :: front).length) back <;> simp

end Script
end ButtonCombo
