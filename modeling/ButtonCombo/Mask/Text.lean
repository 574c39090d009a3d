import ButtonCombo.Mask
import ButtonCombo.Text.Blank
import ButtonCombo.Text.Hexadecimal

/-!
# Masks as text

A mask is written as its buttons joined by `+`, lowest bit first; bits without a
button follow as one hexadecimal word, and the empty mask is a dash.

A text is read part by part.  The parts stand between the `+` signs and may be
padded; each is a button name or a hexadecimal word with `0x` in front.  The first
part that is neither is reported as it was written.  The dash is not read: it says
that there is nothing to read.
-/

namespace ButtonCombo

/-- A part of a mask text that is neither a button nor a word. -/
structure UnknownButton where
  text : String
  deriving DecidableEq

namespace UnknownButton

/-- The report about an unknown part. -/
def message (unknown : UnknownButton) : String :=
  "Unknown button: " ++ unknown.text

end UnknownButton

namespace Mask

/-- The printed parts of a mask: its buttons, then the word of the unnamed bits. -/
def parts (mask : Mask) : List String :=
  mask.buttons.map Button.name ++
    if mask.unnamed.isEmpty then []
    else [String.ofList ('0' :: 'x' :: Text.Hexadecimal.digits mask.unnamed.bits)]

/-- The mask in print. -/
def text (mask : Mask) : String :=
  if mask.isEmpty then "-" else "+".intercalate mask.parts

/-- The word behind `0x` or `0X`. -/
def ofWord? : List Char → Option Mask
  | '0' :: mark :: digits =>
      if mark = 'x' ∨ mark = 'X' then (Text.Hexadecimal.word? digits).map Mask.mk else none
  | _ => none

/-- What one part of a mask text stands for. -/
def ofPart? (part : List Char) : Option Mask :=
  ((Button.ofName? part).map ofButton).or (ofWord? part)

/-- The parts of a mask text, each without its padding. -/
def partsOf (text : List Char) : List (List Char) :=
  ((Text.trim text).splitOn '+').map Text.trim

/-- Take up one more part of a mask text. -/
def addPart
    (mask : Mask)
    (part : List Char) : Except UnknownButton Mask :=
  match ofPart? part with
  | some more => .ok (mask ||| more)
  | none => .error ⟨String.ofList part⟩

/-- Read a mask from its text. -/
def ofChars (text : List Char) : Except UnknownButton Mask :=
  (partsOf text).foldlM addPart empty

/-- Read a mask from its text. -/
def parse (text : String) : Except UnknownButton Mask :=
  ofChars text.toList

end Mask
end ButtonCombo
