import ButtonCombo.Datum

/-!
# TOML tables under construction

While a document is read its tables grow, and how a table came about says how it may
grow further.

* A table that was written out, under a header of its own or inline, takes entries
  there and then only.
* A table that a dotted key passed through takes more entries from dotted keys.
* A table that a longer header passed through may still get a header of its own.

A list of tables grows by one table with each of its headers; every other mention means
the last of its tables.  No entry is ever replaced.
-/

namespace ButtonCombo
namespace Toml

/-- How a table came about. -/
inductive TableKind
  | written
  | dotted
  | implied
  deriving DecidableEq

/-- What stands behind a key of a table under construction. -/
inductive Node
  | value (value : Datum)
  | table (kind : TableKind) (entries : List (String × Node))
  | tables (items : List (List (String × Node)))

/-- The entries of a table under construction, in the order of their appearance. -/
abbrev Table : Type :=
  List (String × Node)

mutual

/-- The value that a finished entry stands for. -/
def Node.data : Node → Datum
  | .value value => value
  | .table _ entries => .table (Table.data entries)
  | .tables items => .list (Table.dataAll items)

/-- The entries of a finished table. -/
def Table.data : List (String × Node) → List (String × Datum)
  | [] => []
  | (key, node) :: rest => (key, node.data) :: Table.data rest

/-- The tables of a finished list. -/
def Table.dataAll : List (List (String × Node)) → List Datum
  | [] => []
  | entries :: rest => .table (Table.data entries) :: Table.dataAll rest

end

namespace Table

/-- Put something else behind a key that is present. -/
def replace
    (key : String)
    (node : Node)
    (t : Table) : Table :=
  t.map fun entry => if entry.1 = key then (key, node) else entry

/-- Add an entry with a dotted key.  The tables on the way come into being with it or
came about in the same manner. -/
def insert
    (node : Node) :
    List String → Table → Option Table
  | [], _ => none
  | [key], t =>
      match t.lookup key with
      | none => some (t ++ [(key, node)])
      | some _ => none
  | key :: rest, t =>
      match t.lookup key with
      | none => (insert node rest []).map fun sub => t ++ [(key, .table .dotted sub)]
      | some (.table .dotted sub) =>
          (insert node rest sub).map fun sub => replace key (.table .dotted sub) t
      | some (.table .implied sub) =>
          if rest.length = 1 then none
          else (insert node rest sub).map fun sub => replace key (.table .implied sub) t
      | some (.tables items) =>
          if rest.length = 1 then none
          else
            match items.reverse with
            | last :: front =>
                (insert node rest last).map fun last =>
                  replace key (.tables (last :: front).reverse) t
            | [] => none
      | some _ => none

/-- The table of a list of entries with dotted keys. -/
def ofEntries (entries : List (List String × Datum)) : Option Table :=
  entries.foldlM (fun t (key, value) => insert (.value value) key t) []

/-- Change the table that a header names; tables on the way that are not there yet are
implied by it. -/
def within
    (change : Table → Option Table) :
    List String → Table → Option Table
  | [], t => change t
  | key :: rest, t =>
      match t.lookup key with
      | none => (within change rest []).map fun sub => t ++ [(key, .table .implied sub)]
      | some (.table kind sub) =>
          (within change rest sub).map fun sub => replace key (.table kind sub) t
      | some (.tables items) =>
          match items.reverse with
          | last :: front =>
              (within change rest last).map fun last =>
                replace key (.tables (last :: front).reverse) t
          | [] => none
      | some (.value _) => none

/-- Begin the table of a header.  An implied table gets its header, and with it its
place among the entries. -/
def begin
    (key : String)
    (t : Table) : Option Table :=
  match t.lookup key with
  | none => some (t ++ [(key, .table .written [])])
  | some (.table .implied sub) =>
      some (t.filter (·.1 != key) ++ [(key, .table .written sub)])
  | some _ => none

/-- Begin the next table of a list of tables. -/
def beginNext
    (key : String)
    (t : Table) : Option Table :=
  match t.lookup key with
  | none => some (t ++ [(key, .tables [[]])])
  | some (.tables items) => some (replace key (.tables (items ++ [[]])) t)
  | some _ => none

end Table
end Toml
end ButtonCombo
