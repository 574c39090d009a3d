/-!
# Reading a decimal number

A number is written with an optional sign, digits with an optional point among or
around them, and an optional exponent; or it is one of the words for infinity and for
no number.  Letters may be of either case.
-/

namespace ButtonCombo
namespace Decimal

/-- Whether a sign is a minus, and the text behind it. -/
def readSign : List Char → Bool × List Char
  | '-' :: rest => (true, rest)
  | '+' :: rest => (false, rest)
  | rest => (false, rest)

/-- The value of a run of digits. -/
def natOfDigits (digits : List Char) : Nat :=
  digits.foldl (fun n c => 10 * n + (c.toNat - '0'.toNat)) 0

/-- The exponent behind the digits; nothing stands for zero. -/
def readExponent? : List Char → Option Int
  | [] => some 0
  | mark :: rest =>
      let (negative, digits) := readSign rest
      if (mark = 'e' ∨ mark = 'E') ∧ digits ≠ [] ∧ digits.all Char.isDigit then
        let n : Int := natOfDigits digits
        some (if negative then -n else n)
      else none

/-- The number with the given digits before and after the point.  A number whose first
digit stands far outside the range of magnitudes is infinite or zero, whatever its
other digits. -/
def ofParts
    (whole fraction : List Char)
    (exponent : Int) : Float :=
  let digits := (whole ++ fraction).dropWhile (· = '0')
  let scale := exponent - fraction.length
  let magnitude := scale + digits.length
  if digits = [] ∨ magnitude < -400 then 0.0
  else if 400 < magnitude then 1.0 / 0.0
  else Float.ofScientific (natOfDigits digits) (decide (scale < 0)) scale.natAbs

/-- Read a number without a sign. -/
def readUnsigned? (text : List Char) : Option Float :=
  let whole := text.takeWhile Char.isDigit
  let (fraction, rest) :=
    match text.dropWhile Char.isDigit with
    | '.' :: rest => (rest.takeWhile Char.isDigit, rest.dropWhile Char.isDigit)
    | rest => ([], rest)
  if whole = [] ∧ fraction = [] then none
  else (readExponent? rest).map (ofParts whole fraction)

/-- Read a number. -/
def read? (text : String) : Option Float :=
  let (negative, rest) := readSign text.toList
  let magnitude :=
    match String.ofList (rest.map Char.toLower) with
    | "nan" => some (0.0 / 0.0)
    | "inf" | "infinity" => some (1.0 / 0.0)
    | _ => readUnsigned? rest
  magnitude.map fun x => if negative then -x else x

end Decimal
end ButtonCombo
