import ButtonCombo.Decimal.Reader
import ButtonCombo.Text.Hexadecimal

/-!
# TOML numbers

Underscores may stand between digits, one at a time.  A decimal number has no zeros in
front.  Integers have 64 bits; they may also be written in base sixteen, eight or two,
without a sign.  A float has a fraction, an exponent or both, or is one of the words
for infinity and for no number.
-/

namespace ButtonCombo
namespace Toml

/-- The digits without the underscores between them.  The flag says whether a digit has
to follow. -/
def plainDigits?
    (isDigit : Char → Bool) :
    Bool → List Char → Option (List Char)
  | needed, [] => if needed then none else some []
  | needed, c :: cs =>
      if isDigit c then (plainDigits? isDigit false cs).map (c :: ·)
      else if c = '_' && !needed then plainDigits? isDigit true cs
      else none

/-- A run of decimal digits, one at least; zeros may stand in front. -/
def decimalDigits? (cs : List Char) : Option (List Char) :=
  plainDigits? Char.isDigit true cs

/-- A run of decimal digits without zeros in front. -/
def wholeDigits? (cs : List Char) : Option (List Char) :=
  if cs.head? = some '0' ∧ cs ≠ ['0'] then none else decimalDigits? cs

/-- The value of digits in a base up to sixteen, one digit at least. -/
def basedValue?
    (base : Nat)
    (cs : List Char) : Option Nat :=
  let isDigit := fun c =>
    match Text.Hexadecimal.digit? c with
    | some d => d < base
    | none => false
  (plainDigits? isDigit true cs).map fun digits =>
    digits.foldl (fun n c => base * n + (Text.Hexadecimal.digit? c).getD 0) 0

/-- An integer in the range of 64 bits with a sign. -/
def inRange? (n : Int) : Option Int :=
  if Int64.minValue.toInt ≤ n ∧ n ≤ Int64.maxValue.toInt then some n else none

/-- An integer. -/
def integer? (token : List Char) : Option Int :=
  let based :=
    match token with
    | '0' :: 'x' :: digits => some (16, digits)
    | '0' :: 'o' :: digits => some (8, digits)
    | '0' :: 'b' :: digits => some (2, digits)
    | _ => none
  match based with
  | some (base, digits) => (basedValue? base digits).bind fun n => inRange? n
  | none =>
      let (negative, digits) := Decimal.readSign token
      (wholeDigits? digits).bind fun digits =>
        let n : Int := Decimal.natOfDigits digits
        inRange? (if negative then -n else n)

/-- The exponent of a float, from behind its mark. -/
def exponent? (cs : List Char) : Option Int :=
  let (negative, digits) := Decimal.readSign cs
  (decimalDigits? digits).map fun digits =>
    let n : Int := Decimal.natOfDigits digits
    if negative then -n else n

/-- A mark of an exponent. -/
def isExponentMark (c : Char) : Bool :=
  c = 'e' || c = 'E'

/-- The parts of a float without its sign: the whole digits, the fraction, and the
exponent.  A float has a fraction, an exponent or both. -/
def floatParts?
    (cs : List Char) : Option (List Char × List Char × Int) :=
  let isMark := fun c => c = '.' || isExponentMark c
  let whole := cs.takeWhile (!isMark ·)
  match cs.dropWhile (!isMark ·) with
  | [] => none
  | '.' :: rest =>
      match wholeDigits? whole, decimalDigits? (rest.takeWhile (!isExponentMark ·)) with
      | some whole, some fraction =>
          match rest.dropWhile (!isExponentMark ·) with
          | [] => some (whole, fraction, 0)
          | _ :: tail => (exponent? tail).map fun e => (whole, fraction, e)
      | _, _ => none
  | _ :: tail =>
      match wholeDigits? whole, exponent? tail with
      | some whole, some e => some (whole, [], e)
      | _, _ => none

/-- A float.  A positive number beyond the range of floats is refused. -/
def float? (token : List Char) : Option Float :=
  let (negative, magnitude) := Decimal.readSign token
  match magnitude with
  | ['i', 'n', 'f'] => some (if negative then -(1.0 / 0.0) else 1.0 / 0.0)
  | ['n', 'a', 'n'] => some (0.0 / 0.0)
  | _ =>
      (floatParts? magnitude).bind fun (whole, fraction, e) =>
        let x := Decimal.ofParts whole fraction e
        if negative then some (-x)
        else if x == 1.0 / 0.0 then none
        else some x

end Toml
end ButtonCombo
