/-!
# The shortest decimal of a binary number

A binary floating-point number stands for every real number that rounds to it.  Its
shortest decimal is the one with the fewest digits among them, and of those with
equally few digits the one nearest to the number itself.

The search is exact.  A finite positive number is `m · 2 ^ q`; the reals that round
to it form an interval whose ends belong to it exactly if `m` is even.  For one digit,
two digits and so on, the two points of the decimal grid next to the number are tried;
seventeen digits are always enough.
-/

namespace ButtonCombo
namespace Decimal

/-- The decimal number `digits · 10 ^ exponent`. -/
structure Scientific where
  digits : Nat
  exponent : Int
  deriving DecidableEq

/-- A positive fraction. -/
structure Ratio where
  num : Nat
  den : Nat

namespace Ratio

/-- `m · 2 ^ q`. -/
def ofBinary
    (m : Nat)
    (q : Int) : Ratio :=
  if 0 ≤ q then ⟨m <<< q.toNat, 1⟩ else ⟨m, 1 <<< (-q).toNat⟩

/-- The ratio divided by `10 ^ e`. -/
def shift
    (r : Ratio)
    (e : Int) : Ratio :=
  if 0 ≤ e then ⟨r.num, r.den * Nat.pow 10 e.toNat⟩ else ⟨r.num * Nat.pow 10 (-e).toNat, r.den⟩

/-- The greatest `e` with `10 ^ e` at most the ratio, which lies between the two
bounds of the search. -/
def magnitude (r : Ratio) : Int :=
  let above := (List.range 400).find? fun k => r.num < r.den * Nat.pow 10 (k + 1)
  let below := (List.range 400).find? fun k => r.den ≤ r.num * Nat.pow 10 k
  if r.den ≤ r.num then above.getD 0 else -(below.getD 0 : Int)

end Ratio

/-- The reals that round to a binary number, with four times the number's unit as the
common measure: `low`, the number and `high` are multiples of a quarter unit. -/
structure Interval where
  low : Nat
  middle : Nat
  high : Nat
  exponent : Int
  closed : Bool

/-- The interval of `m · 2 ^ q`.  Below a power of two the numbers stand twice as
dense, so there the lower end is half as far away. -/
def Interval.ofBinary
    (m : Nat)
    (q : Int)
    (dense : Bool) : Interval where
  low := 4 * m - (if dense then 1 else 2)
  middle := 4 * m
  high := 4 * m + 2
  exponent := q - 2
  closed := m % 2 == 0

/-- The grid point `d · 10 ^ e` lies in the interval. -/
def Interval.contains
    (interval : Interval)
    (d : Nat)
    (e : Int) : Bool :=
  let low := (Ratio.ofBinary interval.low interval.exponent).shift e
  let high := (Ratio.ofBinary interval.high interval.exponent).shift e
  if interval.closed then low.num ≤ d * low.den && d * high.den ≤ high.num
  else low.num < d * low.den && d * high.den < high.num

/-- The point of the grid of multiples of `10 ^ e` that lies in the interval, the
nearer one if the two next to the middle both do. -/
def Interval.gridPoint?
    (interval : Interval)
    (e : Int) : Option Nat :=
  let middle := (Ratio.ofBinary interval.middle interval.exponent).shift e
  let below := middle.num / middle.den
  let above := below + 1
  match interval.contains below e, interval.contains above e with
  | true, true =>
      if middle.num - below * middle.den < above * middle.den - middle.num then some below
      else some above
  | true, false => some below
  | false, true => some above
  | false, false => none

/-- Move the zeros at the end of the digits into the exponent. -/
def Scientific.normalize
    (fuel : Nat)
    (s : Scientific) : Scientific :=
  match fuel with
  | 0 => s
  | fuel + 1 =>
      if s.digits ≠ 0 ∧ s.digits % 10 = 0 then
        normalize fuel ⟨s.digits / 10, s.exponent + 1⟩
      else s

/-- The shortest decimal in an interval. -/
def Interval.shortest (interval : Interval) : Scientific :=
  let top := (Ratio.ofBinary interval.middle interval.exponent).magnitude
  let hit := (List.range 17).findSome? fun (n : Nat) =>
    let place : Int := top - n
    (interval.gridPoint? place).map fun d => (⟨d, place⟩ : Scientific)
  (hit.getD ⟨0, 0⟩).normalize 20

/-- What a double-precision number is. -/
inductive Double
  | nan
  | infinite (negative : Bool)
  | finite (negative : Bool) (mantissa : Nat) (exponent : Int)

/-- The bit of a mantissa that a double-precision number does not store. -/
def hiddenBit : Nat :=
  1 <<< 52

/-- Take a double-precision number apart. -/
def Double.ofFloat (x : Float) : Double :=
  let bits := x.toBits.toNat
  let negative := bits >>> 63 == 1
  let field : Nat := (bits >>> 52) % 2048
  let fraction : Nat := bits % hiddenBit
  if field = 2047 then
    if fraction = 0 then .infinite negative else .nan
  else if field = 0 then
    .finite negative fraction (-1074)
  else
    .finite negative (fraction + hiddenBit) ((field : Int) - 1075)

/-- The shortest decimal of `mantissa · 2 ^ exponent`. -/
def shortest
    (mantissa : Nat)
    (exponent : Int) : Scientific :=
  if mantissa = 0 then ⟨0, 0⟩
  else
    let dense := mantissa == hiddenBit && exponent != -1074
    (Interval.ofBinary mantissa exponent dense).shortest

/-- The digits of a decimal with a point or, outside the given range of magnitudes,
with an exponent.  A number with a point has a digit on either side of it. -/
def Scientific.text
    (least most : Int)
    (s : Scientific) : String :=
  let digits := Nat.toDigits 10 s.digits
  let magnitude : Int := s.exponent + digits.length - 1
  String.ofList <|
    if s.digits = 0 then ['0', '.', '0']
    else if least ≤ magnitude ∧ magnitude ≤ most then
      if 0 ≤ s.exponent then
        digits ++ List.replicate s.exponent.toNat '0' ++ ['.', '0']
      else if 0 ≤ magnitude then
        digits.take (magnitude.toNat + 1) ++ '.' :: digits.drop (magnitude.toNat + 1)
      else
        ['0', '.'] ++ List.replicate (-magnitude - 1).toNat '0' ++ digits
    else
      let fraction := if digits.length ≤ 1 then [] else '.' :: digits.drop 1
      digits.take 1 ++ fraction ++ 'e' :: (toString magnitude).toList

end Decimal
end ButtonCombo
