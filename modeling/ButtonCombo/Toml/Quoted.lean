import ButtonCombo.Text.Hexadecimal
import ButtonCombo.Toml.Blank

/-!
# Quoted TOML strings

A basic string stands between double quotes and has escapes, a literal string stands
between single quotes and has none.  Either may be written with three quotes on each
side; then it may span lines, and a line end directly behind the opening quotes does
not count.  A line end always counts as one line feed.

In a basic string of several lines a backslash at the end of a line takes the line end
and all space and line ends after it out of the string.
-/

namespace ButtonCombo
namespace Toml

/-- Where a basic string is being read. -/
inductive QuotedMode
  /-- Between characters; `folding` behind an escaped line end. -/
  | between (folding : Bool)
  /-- Behind a backslash. -/
  | escape
  /-- Within the digits of a code point. -/
  | codePoint (left value : Nat)
  /-- Behind a backslash and space, before the line end that is escaped. -/
  | beforeLineEnd

/-- The character that a letter behind a backslash stands for. -/
def escaped? : Char → Option Char
  | 'b' => some '\x08'
  | 't' => some '\t'
  | 'n' => some '\n'
  | 'f' => some '\x0C'
  | 'r' => some '\r'
  | '"' => some '"'
  | '\\' => some '\\'
  | _ => none

/-- Put a character in front of what is read next. -/
def consRead
    (c : Char)
    (read : Option (List Char × List Char)) : Option (List Char × List Char) :=
  read.map fun (cs, rest) => (c :: cs, rest)

/-- The end of a string of several lines: three quotes, before which up to two more
belong to the string. -/
def closing? (quote : Char) : List Char → Option (List Char × List Char)
  | a :: b :: c :: rest =>
      if a = quote ∧ b = quote ∧ c = quote then
        match rest with
        | d :: e :: more =>
            if d = quote ∧ e = quote then some ([quote, quote], more)
            else if d = quote then some ([quote], e :: more)
            else some ([], rest)
        | [d] => if d = quote then some ([quote], []) else some ([], rest)
        | [] => some ([], rest)
      else none
  | _ => none

/-- A basic string from behind its opening quotes. -/
def readBasic
    (multi : Bool) :
    QuotedMode → List Char → Option (List Char × List Char)
  | _, [] => none
  | .between folding, c :: rest =>
      let isEnd := multi && (c = '\n' || (c = '\r' && rest.head? = some '\n'))
      if folding && (c = ' ' || c = '\t' || isEnd) then
        readBasic multi (.between true) rest
      else if c = '"' then
        if multi then
          match closing? '"' (c :: rest) with
          | some found => some found
          | none => consRead c (readBasic multi (.between false) rest)
        else some ([], rest)
      else if c = '\\' then readBasic multi .escape rest
      else if isEnd then
        if c = '\n' then consRead c (readBasic multi (.between false) rest)
        else readBasic multi (.between false) rest
      else if isPlain c then consRead c (readBasic multi (.between false) rest)
      else none
  | .escape, c :: rest =>
      match escaped? c with
      | some d => consRead d (readBasic multi (.between false) rest)
      | none =>
          if c = 'u' then readBasic multi (.codePoint 4 0) rest
          else if c = 'U' then readBasic multi (.codePoint 8 0) rest
          else if multi && (c = ' ' || c = '\t') then readBasic multi .beforeLineEnd rest
          else if multi && c = '\n' then readBasic multi (.between true) rest
          else if multi && c = '\r' && rest.head? = some '\n' then
            readBasic multi (.between true) rest
          else none
  | .codePoint left value, c :: rest =>
      match Text.Hexadecimal.digit? c with
      | none => none
      | some digit =>
          let value := 16 * value + digit
          if left ≤ 1 then
            if value.isValidChar then
              consRead (Char.ofNat value) (readBasic multi (.between false) rest)
            else none
          else readBasic multi (.codePoint (left - 1) value) rest
  | .beforeLineEnd, c :: rest =>
      if c = ' ' || c = '\t' then readBasic multi .beforeLineEnd rest
      else if c = '\n' then readBasic multi (.between true) rest
      else if c = '\r' && rest.head? = some '\n' then readBasic multi (.between true) rest
      else none

/-- A literal string from behind its opening quotes. -/
def readLiteral
    (multi : Bool) : List Char → Option (List Char × List Char)
  | [] => none
  | c :: rest =>
      if c = '\'' then
        if multi then
          match closing? '\'' (c :: rest) with
          | some found => some found
          | none => consRead c (readLiteral multi rest)
        else some ([], rest)
      else if multi && c = '\n' then consRead c (readLiteral multi rest)
      else if multi && c = '\r' && rest.head? = some '\n' then readLiteral multi rest
      else if isPlain c then consRead c (readLiteral multi rest)
      else none

/-- The text behind a line end directly behind the opening quotes. -/
def skipFirstLineEnd (cs : List Char) : List Char :=
  (lineEnd? cs).getD cs

/-- A string on one line, as keys may be written too. -/
def readShort : Reader String
  | '"' :: rest => (readBasic false (.between false) rest).map fun (cs, r) => (String.ofList cs, r)
  | '\'' :: rest => (readLiteral false rest).map fun (cs, r) => (String.ofList cs, r)
  | _ => none

/-- A string of any kind. -/
def readString : Reader String
  | '"' :: '"' :: '"' :: rest =>
      (readBasic true (.between false) (skipFirstLineEnd rest)).map fun (cs, r) =>
        (String.ofList cs, r)
  | '\'' :: '\'' :: '\'' :: rest =>
      (readLiteral true (skipFirstLineEnd rest)).map fun (cs, r) => (String.ofList cs, r)
  | cs => readShort cs

end Toml
end ButtonCombo
