import ButtonCombo.Mask
import ButtonCombo.Text.Literal
import ButtonCombo.Decimal.Shortest

/-!
# Codes in print

Recognizers work on codes of any type.  Four types are in use, and this is how their
codes appear in reports and descriptions.
-/

namespace ButtonCombo
namespace Code

/-- A mask is printed with the value of its word. -/
def ofMask (mask : Mask) : String :=
  "ButtonMask(" ++ toString mask.bits.toNat ++ ")"

/-- A whole number is printed in decimal. -/
def ofInt (n : Int) : String :=
  toString n

/-- A character is printed as a literal. -/
def ofChar (c : Char) : String :=
  Text.Literal.ofChar c

/-- A floating-point number is printed as its shortest decimal, with a point from the
ten-thousandth place up to sixteen digits before it, else with an exponent. -/
def ofFloat (x : Float) : String :=
  match Decimal.Double.ofFloat x with
  | .nan => "NaN"
  | .infinite negative => if negative then "-inf" else "inf"
  | .finite negative mantissa exponent =>
      let text := (Decimal.shortest mantissa exponent).text (-4) 15
      if negative then "-" ++ text else text

end Code
end ButtonCombo
