import ButtonCombo.KeyMap
import ButtonCombo.Text.Hexadecimal

/-!
# The listing of buttons

One row per button: its name, its bit, and the keys that press exactly this button.
The first two columns have a fixed width.
-/

namespace ButtonCombo
namespace KeyMap

/-- A text filled up with spaces to a width. -/
def padRight
    (width : Nat)
    (text : String) : String :=
  text ++ String.ofList (List.replicate (width - text.length) ' ')

/-- A row of the listing. -/
def row (name bit keys : String) : String :=
  padRight 12 name ++ " " ++ padRight 8 bit ++ " " ++ keys ++ "\n"

/-- The row of a button; a dash stands for no key. -/
def buttonRow
    (map : KeyMap)
    (button : Button) : String :=
  let bit := String.ofList ('0' :: 'x' :: Text.Hexadecimal.digits button.bit)
  match map.keysFor button with
  | [] => row button.name bit "-"
  | keys => row button.name bit (", ".intercalate keys)

/-- The whole listing. -/
def listing (map : KeyMap) : String :=
  row "BUTTON" "BIT" "KEYS" ++ String.join (Button.all.map map.buttonRow)

end KeyMap
end ButtonCombo
