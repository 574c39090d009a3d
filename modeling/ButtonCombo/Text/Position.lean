/-!
# Positions at the end of a message

A message about a document may end with the position it is about, as a line and a column
behind the words for them.  Lines are counted from one; line zero stands for no position
in the document.

A message that is passed on with such an end is brought into one form: the numbers are
written without zeros in front, and an end that stands for no position is dropped.  Only
the last mention of a line can be such an end, and only if nothing follows the column.
Numbers of more than 64 bits are no position.
-/

namespace ButtonCombo
namespace Text
namespace Position

/-- The words in front of a line number. -/
def lineMark : List Char :=
  " at line ".toList

/-- The words in front of a column number. -/
def columnMark : List Char :=
  " column ".toList

/-- What stands before and behind the last place where a mark occurs. -/
def splitLast?
    (mark : List Char) : List Char → Option (List Char × List Char)
  | [] => none
  | c :: cs =>
      match splitLast? mark cs with
      | some (front, back) => some (c :: front, back)
      | none => if mark.isPrefixOf (c :: cs) then some ([], (c :: cs).drop mark.length) else none

/-- A number in decimal digits that fits into 64 bits. -/
def number? (digits : List Char) : Option Nat :=
  let n := digits.foldl (fun n c => 10 * n + (c.toNat - '0'.toNat)) 0
  if digits ≠ [] ∧ digits.all Char.isDigit ∧ n < UInt64.size then some n else none

/-- The line and the column of a position, from behind the words for the line. -/
def read? (cs : List Char) : Option (Nat × Nat) :=
  let rest := cs.dropWhile Char.isDigit
  if columnMark.isPrefixOf rest then
    match number? (cs.takeWhile Char.isDigit), number? (rest.drop columnMark.length) with
    | some line, some column => some (line, column)
    | _, _ => none
  else none

/-- A position as the end of a message. -/
def ending (line column : Nat) : List Char :=
  if line = 0 then []
  else lineMark ++ (toString line).toList ++ columnMark ++ (toString column).toList

/-- A message with the position at its end, if there is one, in its one form. -/
def settle (message : List Char) : List Char :=
  match splitLast? lineMark message with
  | none => message
  | some (front, back) =>
      match read? back with
      | none => message
      | some (line, column) => front ++ ending line column

end Position
end Text
end ButtonCombo
