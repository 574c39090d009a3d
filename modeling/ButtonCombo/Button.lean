/-!
# The buttons of the game pad

The controller reports its buttons in one 16-bit word; every button has a bit of
its own there.  Twelve of the sixteen bits are named.  A button is written by its
name, in any mixture of upper and lower case; the four directions of the d-pad
also answer to the short name of the direction.

Main facts:

* `mem_all`: `Button.all` lists every button;
* `ofBit?_eq_some_iff`: a word is the bit of at most one button;
* `ofName?_name`: a button is found again under its own name.
-/

namespace ButtonCombo

/-- A button of the game pad. -/
inductive Button
  | dpadLeft
  | dpadRight
  | dpadDown
  | dpadUp
  | z
  | r
  | l
  | a
  | b
  | x
  | y
  | start
  deriving DecidableEq

namespace Button

/-- The buttons, lowest bit first. -/
def all : List Button :=
  [dpadLeft, dpadRight, dpadDown, dpadUp, z, r, l, a, b, x, y, start]

/-- The bit of a button in the controller's word. -/
def bit : Button → BitVec 16
  | dpadLeft => 0x0001
  | dpadRight => 0x0002
  | dpadDown => 0x0004
  | dpadUp => 0x0008
  | z => 0x0010
  | r => 0x0020
  | l => 0x0040
  | a => 0x0100
  | b => 0x0200
  | x => 0x0400
  | y => 0x0800
  | start => 0x1000

/-- The name a button is printed under. -/
def name : Button → String
  | dpadLeft => "DPAD_LEFT"
  | dpadRight => "DPAD_RIGHT"
  | dpadDown => "DPAD_DOWN"
  | dpadUp => "DPAD_UP"
  | z => "Z"
  | r => "R"
  | l => "L"
  | a => "A"
  | b => "B"
  | x => "X"
  | y => "Y"
  | start => "START"

/-- The short name of a direction of the d-pad. -/
def alias? : Button → Option String
  | dpadLeft => some "LEFT"
  | dpadRight => some "RIGHT"
  | dpadDown => some "DOWN"
  | dpadUp => some "UP"
  | _ => none

/-- Every name a button answers to. -/
def names (button : Button) : List String :=
  button.name :: button.alias?.toList

/-- The four directions form the d-pad. -/
def isDpad (button : Button) : Bool :=
  button.alias?.isSome

/-- The words of the name run together, each with a capital letter. -/
def title (button : Button) : String :=
  String.ofList <|
    (button.name.toList.splitOn '_').flatMap fun
      | [] => []
      | c :: cs => c :: cs.map Char.toLower

/-- The button whose bit is the whole word. -/
def ofBit? (word : BitVec 16) : Option Button :=
  all.find? fun button => button.bit == word

/-- Two texts that differ at most in the case of ASCII letters. -/
def sameName (s t : List Char) : Bool :=
  s.map Char.toLower == t.map Char.toLower

/-- The button that answers to a text. -/
def ofName? (text : List Char) : Option Button :=
  all.find? fun button => button.names.any fun name => sameName name.toList text

/-- The report about a text that no button answers to. -/
def notFound : String :=
  "Matching variant not found"

@[simp] theorem mem_all
    (button : Button) :
    button ∈ all := by
  cases button <;> decide

theorem bit_injective
    {button other : Button}
    (h : button.bit = other.bit) :
    button = other := by
  revert h
  cases button <;> cases other <;> decide

/-- Only the bit of a button is read as that button. -/
theorem ofBit?_eq_some_iff
    {word : BitVec 16}
    {button : Button} :
    ofBit? word = some button ↔ button.bit = word := by
  constructor
  · intro h
    simpa using List.find?_some h
  · rintro rfl
    cases button <;> rfl

/-- A button answers to its own name. -/
theorem ofName?_name
    (button : Button) :
    ofName? button.name.toList = some button := by
  cases button <;> decide

end Button
end ButtonCombo
