import ProcTrace.Toml.Text

/-!
# TOML dates and times

A date, a time of day, or a date with a time of day, which may have an offset from universal time.
A moment is kept as the text that it is written as: `T` between date and time, `Z` for an offset of
`Z`, and no zeros at the end of the fraction, of which nine digits count.
-/

namespace ProcTrace.Toml

open Text Text.Reader

/-- Two digits. -/
def twoDigits (n : Nat) : List Char :=
  [Nat.digitChar (n / 10 % 10), Nat.digitChar (n % 10)]

/-- A number of so many digits within bounds. -/
def boundedNumber (places low high : Nat) : Reader Nat :=
  filterMap (fun cs => let n := ofDigits 10 cs; if low ≤ n ∧ n ≤ high then some n else none)
    (count places Char.isDigit)

/-- The year is a leap year. -/
def isLeapYear (year : Nat) : Bool :=
  year % 4 = 0 && (year % 100 ≠ 0 || year % 400 = 0)

/-- The number of days in a month. -/
def monthLength (year month : Nat) : Nat :=
  if month = 2 then (if isLeapYear year then 29 else 28)
  else if [4, 6, 9, 11].contains month then 30
  else 31

/-- A date, which the hyphen after its year announces. -/
def date : Reader (List Char) := do
  let year ← boundedNumber 4 0 9999
  let _ ← char '-'
  let month ← must (boundedNumber 2 1 12)
  let _ ← must (char '-')
  let day ← must (boundedNumber 2 1 (monthLength year month))
  pure (twoDigits (year / 100) ++ twoDigits year ++ '-' :: twoDigits month ++ '-' :: twoDigits day)

/-- The part of a second, without the zeros at its end. -/
def secondPart : Reader (List Char) := do
  let _ ← char '.'
  let cs ← chars1 Char.isDigit
  let cs := ((cs.take 9).reverse.dropWhile (· = '0')).reverse
  pure (if cs = [] then [] else '.' :: cs)

/-- A time of day, which the colon after its hour announces. Minutes may have a leap second. -/
def time : Reader (List Char) := do
  let hour ← boundedNumber 2 0 23
  let _ ← char ':'
  let minute ← must (boundedNumber 2 0 59)
  let _ ← must (char ':')
  let second ← must (boundedNumber 2 0 60)
  let part ← optional secondPart
  pure (twoDigits hour ++ ':' :: twoDigits minute ++ ':' :: twoDigits second ++ part.getD [])

/-- An offset in hours and minutes; one of nothing has a plus sign. -/
def hoursAndMinutes : Reader (List Char) := do
  let mark ← char '+' <|> char '-'
  let hour ← must (boundedNumber 2 0 23)
  let _ ← must (char ':')
  let minute ← must (boundedNumber 2 0 59)
  let mark := if hour = 0 ∧ minute = 0 then '+' else mark
  pure (mark :: twoDigits hour ++ ':' :: twoDigits minute)

/-- An offset from universal time. -/
def offset : Reader (List Char) :=
  (do let _ ← char 'Z' <|> char 'z'; pure ['Z']) <|> hoursAndMinutes

/-- A time after a date. -/
def timeAfterDate : Reader (List Char) := do
  let _ ← char 'T' <|> char 't' <|> char ' '
  let t ← time
  let o ← optional offset
  pure ('T' :: t ++ o.getD [])

/-- A date, a time of day, or both. -/
def moment : Reader (List Char) :=
  (do
    let d ← date
    let t ← optional timeAfterDate
    pure (d ++ t.getD [])) <|> time

end ProcTrace.Toml
