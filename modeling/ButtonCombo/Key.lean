import ButtonCombo.Text.Blank

/-!
# Keys of the keyboard

A key is a character or one of the keys without one.  In a configuration keys are
written by name: a single character, or a word such as `enter` or `space`.  Case and
padding do not matter.

Escape and the letter q quit the program; so does control with the letter c.
-/

namespace ButtonCombo

/-- A key.  The keys that have no name in a configuration are told apart by the name
that the terminal gives them. -/
inductive Key
  | char (c : Char)
  | up
  | down
  | left
  | right
  | enter
  | tab
  | backspace
  | esc
  | function (number : Nat)
  | other (name : String)
  deriving DecidableEq

/-- A key that is held while another one is pressed. -/
inductive Modifier
  | shift
  | control
  | alt
  | superKey
  | hyper
  | metaKey
  deriving DecidableEq

/-- A key that was pressed, and the modifiers that were held. -/
structure KeyEvent where
  key : Key
  modifiers : List Modifier := []
  deriving DecidableEq

namespace Key

/-- The words that name a key. -/
def words : List (String × Key) :=
  [("up", up), ("down", down), ("left", left), ("right", right), ("enter", enter),
   ("return", enter), ("space", char ' '), ("tab", tab), ("backspace", backspace),
   ("esc", esc), ("escape", esc)]

/-- The key of a text in lower case: a word or a single character. -/
def ofLower? (text : List Char) : Option Key :=
  match words.lookup (String.ofList text) with
  | some key => some key
  | none =>
      match text with
      | [c] => some (char c)
      | _ => none

/-- The key that a name stands for. -/
def parse? (name : String) : Option Key :=
  ofLower? ((Text.trim name.toList).map Char.toLower)

/-- The name under which a key is listed. -/
def name : Key → String
  | char c => if c = ' ' then "space" else String.singleton c
  | up => "up"
  | down => "down"
  | left => "left"
  | right => "right"
  | enter => "enter"
  | tab => "tab"
  | backspace => "backspace"
  | esc => "esc"
  | function number => "f(" ++ toString number ++ ")"
  | other name => String.ofList (name.toList.map Char.toLower)

/-- The keys that quit the program by themselves. -/
def isQuit : Key → Bool
  | esc => true
  | char c => c = 'q' || c = 'Q'
  | _ => false

/-- The key with a letter in lower case. -/
def fold : Key → Key
  | char c => char c.toLower
  | key => key

end Key

namespace KeyEvent

/-- The event asks to quit the program. -/
def isQuit (event : KeyEvent) : Bool :=
  event.key.isQuit || (event.key == .char 'c' && event.modifiers.contains .control)

end KeyEvent
end ButtonCombo
