import ButtonCombo.Decimal.Reader

/-!
# TOML dates and times

A date is year, month and day; a time is hour, minute and second with an optional
fraction; both together may carry an offset from universal time.  They are kept as text
in one normal form: a capital T between date and time, a fraction of at most nine
digits without zeros at its end, an offset as a capital Z or with its sign.
-/

namespace ButtonCombo
namespace Toml

/-- A number of exactly so many digits that is at most `most`. -/
def field?
    (digits most : Nat)
    (cs : List Char) : Option Nat :=
  if cs.length = digits ∧ cs.all Char.isDigit ∧ Decimal.natOfDigits cs ≤ most then
    some (Decimal.natOfDigits cs)
  else none

/-- The years with a day in February more. -/
def isLeapYear (year : Nat) : Bool :=
  year % 4 == 0 && (year % 100 != 0 || year % 400 == 0)

/-- The number of days of a month. -/
def daysInMonth (year month : Nat) : Nat :=
  if month = 2 then if isLeapYear year then 29 else 28
  else if month = 4 ∨ month = 6 ∨ month = 9 ∨ month = 11 then 30
  else 31

/-- A date. -/
def date? (cs : List Char) : Option (List Char) :=
  match cs.splitOn '-' with
  | [y, m, d] =>
      match field? 4 9999 y, field? 2 12 m, field? 2 31 d with
      | some year, some month, some day =>
          if 1 ≤ month ∧ 1 ≤ day ∧ day ≤ daysInMonth year month then some cs else none
      | _, _, _ => none
  | _ => none

/-- The digits without the zeros at their end. -/
def dropEndZeros (digits : List Char) : List Char :=
  (digits.reverse.dropWhile (· = '0')).reverse

/-- A fraction of a second in normal form, with its point. -/
def fraction? (digits : List Char) : Option (List Char) :=
  if digits ≠ [] ∧ digits.all Char.isDigit then
    match dropEndZeros (digits.take 9) with
    | [] => some []
    | kept => some ('.' :: kept)
  else none

/-- A second with its fraction. -/
def second? (cs : List Char) : Option (List Char) :=
  match cs.splitOn '.' with
  | [s] => (field? 2 60 s).map fun _ => s
  | [s, digits] => (field? 2 60 s).bind fun _ => (fraction? digits).map (s ++ ·)
  | _ => none

/-- A time of the day. -/
def time? (cs : List Char) : Option (List Char) :=
  match cs.splitOn ':' with
  | [h, m, s] =>
      match field? 2 23 h, field? 2 59 m, second? s with
      | some _, some _, some second => some (h ++ ':' :: m ++ ':' :: second)
      | _, _, _ => none
  | _ => none

/-- An offset in hours and minutes, from behind its sign. -/
def offset?
    (sign : Char)
    (cs : List Char) : Option (List Char) :=
  match cs.splitOn ':' with
  | [h, m] =>
      match field? 2 23 h, field? 2 59 m with
      | some hours, some minutes =>
          let sign := if hours = 0 ∧ minutes = 0 then '+' else sign
          some (sign :: h ++ ':' :: m)
      | _, _ => none
  | _ => none

/-- A time of the day with an optional offset. -/
def offsetTime? (cs : List Char) : Option (List Char) :=
  let time := cs.takeWhile fun c => c.isDigit || c = ':' || c = '.'
  match cs.dropWhile fun c => c.isDigit || c = ':' || c = '.' with
  | [] => time? time
  | ['Z'] | ['z'] => (time? time).map (· ++ ['Z'])
  | sign :: rest =>
      if sign = '+' || sign = '-' then
        match time? time, offset? sign rest with
        | some time, some offset => some (time ++ offset)
        | _, _ => none
      else none

/-- A date, a time, or both with a letter between them, in normal form. -/
def instant? (token : List Char) : Option String :=
  let text :=
    match token.drop 10 with
    | [] => (date? token).or (time? token)
    | mark :: time =>
        if mark = 'T' || mark = 't' then
          match date? (token.take 10), offsetTime? time with
          | some date, some time => some (date ++ 'T' :: time)
          | _, _ => none
        else time? token
  text.map String.ofList

end Toml
end ButtonCombo
