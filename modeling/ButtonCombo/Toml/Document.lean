import ButtonCombo.Toml.Value

/-!
# TOML documents

A document is read line by line: blank lines and comments, headers that say which table
the following entries belong to, and entries.  A mark of byte order may stand in front.

A text that is no document has no reading at all; nothing is said about where it fails.
-/

namespace ButtonCombo
namespace Toml

/-- The root table so far, and the header that the next entries belong to. -/
structure Progress where
  root : Table := []
  header : List String := []

/-- Begin the table, or the next table of a list, that a header names. -/
def Progress.begin
    (p : Progress)
    (next : Bool)
    (header : List String) : Option Progress :=
  match header.getLast? with
  | none => none
  | some key =>
      let change := if next then Table.beginNext key else Table.begin key
      (Table.within change header.dropLast p.root).map fun root => { root, header }

/-- Add an entry to the table of the last header. -/
def Progress.insert
    (p : Progress)
    (key : List String)
    (value : Datum) : Option Progress :=
  (Table.within (Table.insert (.value value) key) p.header p.root).map fun root =>
    { p with root }

/-- A header from behind its opening brackets: the key, and the text behind the line. -/
def readHeader (next : Bool) : Reader (List String) := fun cs =>
  match readKey cs with
  | none => none
  | some (key, rest) =>
      let closed :=
        if next then (expect? ']' rest).bind (expect? ']') else expect? ']' rest
      (closed.bind endLine?).map fun left => (key, left)

/-- One line of a document, not blank: a header or an entry. -/
def readLine
    (p : Progress)
    (cs : List Char) : Option (Progress × List Char) :=
  match cs with
  | '[' :: '[' :: rest =>
      (readHeader true rest).bind fun (key, left) => (p.begin true key).map (·, left)
  | '[' :: rest =>
      (readHeader false rest).bind fun (key, left) => (p.begin false key).map (·, left)
  | _ =>
      (readEntry readValue cs).bind fun ((key, value), rest) =>
        (endLine? rest).bind fun left => (p.insert key value).map (·, left)

/-- The lines of a document, given a bound on their number. -/
def readLines : Nat → Progress → List Char → Option Progress
  | 0, _, _ => none
  | bound + 1, p, cs =>
      match skipBlank cs with
      | [] => some p
      | start =>
          match readLine p start with
          | none => none
          | some (next, rest) => readLines bound next rest

/-- The text without a mark of byte order in front. -/
def dropByteOrderMark : List Char → List Char
  | '\ufeff' :: rest => rest
  | cs => cs

/-- The entries of a document. -/
def read? (text : String) : Option (List (String × Datum)) :=
  let cs := dropByteOrderMark text.toList
  (readLines (cs.length + 1) {} cs).map fun p => Table.data p.root

end Toml
end ButtonCombo
