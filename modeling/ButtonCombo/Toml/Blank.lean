/-!
# Space between TOML tokens

Within a line tokens are separated by spaces and tabs.  Between the items of a list
lines may end, and a comment may stand before the end of a line.
-/

namespace ButtonCombo
namespace Toml

/-- A reader takes a part of the text and leaves the rest. -/
abbrev Reader (α : Type) : Type :=
  List Char → Option (α × List Char)

/-- A character that may stand in a comment or a string: a tab, or anything that is no
control character of ASCII. -/
def isPlain (c : Char) : Bool :=
  c = '\t' || (0x20 ≤ c.toNat && c.toNat ≠ 0x7F)

/-- The text behind spaces and tabs. -/
def skipSpace (cs : List Char) : List Char :=
  cs.dropWhile fun c => c = ' ' || c = '\t'

/-- The text behind a line end, if one is next. -/
def lineEnd? : List Char → Option (List Char)
  | '\n' :: rest => some rest
  | '\r' :: '\n' :: rest => some rest
  | _ => none

/-- The text behind a comment, if one is next. -/
def skipComment : List Char → List Char
  | '#' :: rest => rest.dropWhile isPlain
  | cs => cs

/-- The text behind the end of a line on which only space and a comment are left.  The
last line may lack its end. -/
def endLine? (cs : List Char) : Option (List Char) :=
  match skipComment (skipSpace cs) with
  | [] => some []
  | rest => lineEnd? rest

/-- The text behind all space, comments and line ends, given a bound on their number. -/
def skipLines : Nat → List Char → List Char
  | 0, cs => cs
  | bound + 1, cs =>
      let rest := skipComment (skipSpace cs)
      match lineEnd? rest with
      | some next => skipLines bound next
      | none => rest

/-- The text behind all space, comments and line ends. -/
def skipBlank (cs : List Char) : List Char :=
  skipLines cs.length cs

/-- The text behind a character that has to be next. -/
def expect? (c : Char) : List Char → Option (List Char)
  | [] => none
  | d :: rest => if d = c then some rest else none

end Toml
end ButtonCombo
