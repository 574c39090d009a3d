import ButtonCombo.Datum
import ButtonCombo.Toml.Instant
import ButtonCombo.Toml.Number
import ButtonCombo.Toml.Quoted
import ButtonCombo.Toml.Table

/-!
# TOML values

A value is a string, a number, a truth value, a date or time, a list or an inline
table.  Lists and inline tables may be nested, but not deeper than a fixed limit.
-/

namespace ButtonCombo
namespace Toml

/-- How deep lists and inline tables may be nested, and how many parts a dotted key
may have. -/
def nestingLimit : Nat :=
  79

/-- A character of a value without quotes and brackets. -/
def isTokenChar (c : Char) : Bool :=
  c.isAlphanum || c = '+' || c = '-' || c = '_' || c = '.' || c = ':'

/-- The value of a token. -/
def tokenValue? (token : List Char) : Option Datum :=
  if token = "true".toList then some (.boolean true)
  else if token = "false".toList then some (.boolean false)
  else
    ((instant? token).map Datum.datetime).or <|
      ((integer? token).map Datum.integer).or <|
        (float? token).map Datum.float

/-- A date with a time behind a space: one token, written as two. -/
def readSpacedInstant : Reader Datum := fun cs =>
  let date := cs.takeWhile isTokenChar
  match date? date, cs.dropWhile isTokenChar with
  | some date, ' ' :: rest =>
      match offsetTime? (rest.takeWhile isTokenChar) with
      | some time =>
          some (.datetime (String.ofList (date ++ 'T' :: time)), rest.dropWhile isTokenChar)
      | none => none
  | _, _ => none

/-- A value without quotes and brackets. -/
def readToken : Reader Datum := fun cs =>
  (readSpacedInstant cs).or <|
    (tokenValue? (cs.takeWhile isTokenChar)).map fun value => (value, cs.dropWhile isTokenChar)

/-- A character of a key without quotes. -/
def isKeyChar (c : Char) : Bool :=
  c.isAlphanum || c = '_' || c = '-'

/-- One part of a key. -/
def readKeyPart : Reader String := fun cs =>
  match cs with
  | '"' :: _ | '\'' :: _ => readShort cs
  | _ =>
      match cs.takeWhile isKeyChar with
      | [] => none
      | name => some (String.ofList name, cs.dropWhile isKeyChar)

/-- The parts of a key that are left, given a bound on their number. -/
def readKeyParts : Nat → Reader (List String)
  | 0, _ => none
  | bound + 1, cs =>
      match readKeyPart (skipSpace cs) with
      | none => none
      | some (part, rest) =>
          match skipSpace rest with
          | '.' :: more =>
              (readKeyParts bound more).map fun (parts, left) => (part :: parts, left)
          | left => some ([part], left)

/-- A key: parts with points between them, and space around each. -/
def readKey : Reader (List String) :=
  readKeyParts nestingLimit

/-- A key and a value with an equals sign between them. -/
def readEntry (value : Reader Datum) : Reader (List String × Datum) := fun cs =>
  match readKey cs with
  | some (key, '=' :: rest) =>
      (value (skipSpace rest)).map fun (v, left) => ((key, v), left)
  | _ => none

/-- The items of a list up to its closing bracket, given a bound on their number.  A
comma may stand behind the last item. -/
def readItems (value : Reader Datum) : Nat → Reader (List Datum)
  | 0, _ => none
  | bound + 1, cs =>
      match skipBlank cs with
      | ']' :: rest => some ([], rest)
      | start =>
          match value start with
          | none => none
          | some (item, rest) =>
              match skipBlank rest with
              | ']' :: left => some ([item], left)
              | ',' :: more =>
                  (readItems value bound more).map fun (items, left) => (item :: items, left)
              | _ => none

/-- The entries of an inline table from the first to the closing brace, given a bound
on their number. -/
def readEntries (value : Reader Datum) : Nat → Reader (List (List String × Datum))
  | 0, _ => none
  | bound + 1, cs =>
      match readEntry value cs with
      | none => none
      | some (entry, rest) =>
          match skipSpace rest with
          | ',' :: more =>
              (readEntries value bound more).map fun (entries, left) => (entry :: entries, left)
          | '\x7d' :: left => some ([entry], left)
          | _ => none

/-- The entries of an inline table from behind its opening brace. -/
def readInline (value : Reader Datum) : Reader Datum := fun cs =>
  let entries :=
    match skipSpace cs with
    | '\x7d' :: left => some ([], left)
    | _ => readEntries value cs.length cs
  entries.bind fun (entries, left) =>
    (Table.ofEntries entries).map fun table => (.table (Table.data table), left)

/-- A value in which lists and inline tables are nested at most so deep. -/
def readNested : Nat → Reader Datum
  | depth, cs =>
      match cs with
      | '"' :: _ | '\'' :: _ => (readString cs).map fun (s, rest) => (.text s, rest)
      | '[' :: rest =>
          match depth with
          | 0 => none
          | depth + 1 =>
              (readItems (readNested depth) cs.length rest).map fun (items, left) =>
                (.list items, left)
      | '\x7b' :: rest =>
          match depth with
          | 0 => none
          | depth + 1 => readInline (readNested depth) rest
      | _ => readToken cs

/-- A value. -/
def readValue : Reader Datum :=
  readNested nestingLimit

end Toml
end ButtonCombo
