import ButtonCombo.Text.Hidden

/-!
# Characters and texts as literals

A literal stands between quotes and can be told apart from its surroundings: the
quote itself, the backslash and the usual control characters are written with a
backslash, and a hidden character by its code point.
-/

namespace ButtonCombo
namespace Text
namespace Literal

/-- A character by its code point, as `\u{200b}`. -/
def codePoint (c : Char) : List Char :=
  ['\\', 'u', '\x7b'] ++ Nat.toDigits 16 c.toNat ++ ['\x7d']

/-- A character as it stands inside a literal with the given quote. -/
def escape
    (quote c : Char) : List Char :=
  match c with
  | '\x00' => ['\\', '0']
  | '\t' => ['\\', 't']
  | '\r' => ['\\', 'r']
  | '\n' => ['\\', 'n']
  | '\\' => ['\\', '\\']
  | _ =>
      if c = quote then ['\\', c]
      else if isHidden c then codePoint c
      else [c]

/-- A character between single quotes. -/
def ofChar (c : Char) : String :=
  String.ofList ('\'' :: escape '\'' c ++ ['\''])

/-- A text between double quotes. -/
def ofString (s : String) : String :=
  String.ofList ('"' :: s.toList.flatMap (escape '"') ++ ['"'])

end Literal
end Text
end ButtonCombo
