import ButtonCombo.Key
import ButtonCombo.Mask
import ButtonCombo.NameMap

/-!
# Key maps

A key map says which buttons a key presses.  It starts with a default binding for every
button, and a configuration may bind further keys or bind a key anew, in the order of
the names it uses.  A key that quits the program cannot be bound.

A look-up does not care about modifiers or the case of a letter.

Main facts:

* `get?_bind`: binding a key changes what that key presses and nothing else.
-/

namespace ButtonCombo

/-- Which buttons a key presses; every key occurs once. -/
structure KeyMap where
  bindings : List (Key × Mask)

namespace KeyMap

/-- Why an override is refused. -/
inductive Error
  | unknownKey (name : String)
  | reservedKey (name : String)
  deriving DecidableEq

/-- The refusal in words. -/
def Error.message : Error → String
  | unknownKey name => "Unknown key name '" ++ name ++ "'"
  | reservedKey name => "Key '" ++ name ++ "' is reserved for quitting"

/-- The keys that are bound from the start: the arrow keys are the d-pad, the letters
are the buttons of the same name, and enter is start. -/
def default : KeyMap where
  bindings :=
    [(.up, .ofButton .dpadUp), (.down, .ofButton .dpadDown), (.left, .ofButton .dpadLeft),
     (.right, .ofButton .dpadRight), (.char 'a', .ofButton .a), (.char 'b', .ofButton .b),
     (.char 'x', .ofButton .x), (.char 'y', .ofButton .y), (.char 'z', .ofButton .z),
     (.char 'l', .ofButton .l), (.char 'r', .ofButton .r), (.enter, .ofButton .start)]

/-- What a key presses, if it is bound. -/
def get?
    (map : KeyMap)
    (key : Key) : Option Mask :=
  map.bindings.lookup key

/-- Bind a key, whether it is bound already or not. -/
def bind
    (map : KeyMap)
    (key : Key)
    (mask : Mask) : KeyMap :=
  ⟨(key, mask) :: map.bindings.filter (·.1 != key)⟩

/-- Bind the key of that name. -/
def bindName
    (map : KeyMap)
    (name : String)
    (mask : Mask) : Except Error KeyMap :=
  match Key.parse? name with
  | none => .error (.unknownKey name)
  | some key => if key.isQuit then .error (.reservedKey name) else .ok (map.bind key mask)

/-- The default map with the overrides of a configuration, in the order of their
names. -/
def withOverrides (overrides : NameMap Mask) : Except Error KeyMap :=
  overrides.entries.foldlM (fun map entry => map.bindName entry.1 entry.2) default

/-- The buttons that a key event presses, if its key is bound. -/
def lookup
    (map : KeyMap)
    (event : KeyEvent) : Option Mask :=
  map.get? event.key.fold

/-- The names of the keys that press exactly this button, in order. -/
def keysFor
    (map : KeyMap)
    (button : Button) : List String :=
  ((map.bindings.filter (·.2.single? == some button)).map (·.1.name)).mergeSort

/-- Binding a key changes what that key presses and nothing else. -/
theorem get?_bind
    (map : KeyMap)
    (key query : Key)
    (mask : Mask) :
    (map.bind key mask).get? query = if query = key then some mask else map.get? query := by
  by_cases h : query = key
  · simp [bind, get?, h]
  · simp only [bind, get?, List.lookup_cons, h, if_false]
    have hne : (query == key) = false := by simpa using h
    simp only [hne]
    induction map.bindings with
    | nil => rfl
    | cons binding rest ih =>
        obtain ⟨k, m⟩ := binding
        by_cases hk : k = key
        · subst hk
          simp [List.lookup_cons, hne, ih]
        · by_cases hq : query = k
          · subst hq
            simp [hk]
          · have hqk : (query == k) = false := by simpa using hq
            simp [List.lookup_cons, hk, hqk, ih]

end KeyMap
end ButtonCombo
