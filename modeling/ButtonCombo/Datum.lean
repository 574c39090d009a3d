/-!
# Plain data

The values that a configuration file or a JSON document holds, and the reading of a
choice among named alternatives from such a value.

A choice is written as its name.  It may also be written as a table with the name as
its only key; what stands behind the key then says that there is nothing more to it.
-/

namespace ButtonCombo

/-- A value of a data format.  Tables keep their entries in the order of the document. -/
inductive Datum
  | null
  | boolean (value : Bool)
  | integer (value : Int)
  | float (value : Float)
  | text (value : String)
  | datetime (text : String)
  | list (items : List Datum)
  | table (entries : List (String × Datum))
  deriving Inhabited

namespace Datum

/-- Nothing, as JSON writes it. -/
def isNull : Datum → Bool
  | null => true
  | _ => false

/-- Nothing, as a format without null writes it: an empty table or list. -/
def isVacant : Datum → Bool
  | list [] | table [] => true
  | _ => false

/-- A name outside the names that are known at its place. -/
structure UnknownName where
  name : String
  known : List String
  deriving DecidableEq

namespace UnknownName

/-- The report about an unknown name of the given kind. -/
def message
    (kind : String)
    (unknown : UnknownName) : String :=
  let quoted := unknown.known.map fun name => "`" ++ name ++ "`"
  "unknown " ++ kind ++ " `" ++ unknown.name ++ "`, expected one of " ++ ", ".intercalate quoted

end UnknownName

/-- Why a value is no choice: it has another form, or it names no alternative. -/
inductive ChoiceError
  | form
  | unknown (name : UnknownName)
  deriving DecidableEq

/-- The alternative of that name. -/
def alternative
    {α : Type}
    (alternatives : List (String × α))
    (name : String) : Except ChoiceError α :=
  match alternatives.lookup name with
  | some value => .ok value
  | none => .error (.unknown ⟨name, alternatives.map Prod.fst⟩)

/-- Read a choice among named alternatives. -/
def choice
    {α : Type}
    (isNothing : Datum → Bool)
    (alternatives : List (String × α)) : Datum → Except ChoiceError α
  | text name => alternative alternatives name
  | table [(name, rest)] =>
      match alternative alternatives name with
      | .ok value => if isNothing rest then .ok value else .error .form
      | .error error => .error error
  | _ => .error .form

end Datum
end ButtonCombo
