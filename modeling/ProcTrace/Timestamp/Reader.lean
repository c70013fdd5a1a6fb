import ProcTrace.Text.Blank
import ProcTrace.Text.Utf8
import ProcTrace.Timestamp.Instant

/-!
# Reading timestamps

A timestamp is a date, a separator, a time of day and an offset from UTC, in the order of RFC 3339.
The reading is lenient about everything that does not change the meaning: numbers may lack leading
zeros and be preceded by blanks, a year may have a sign and more than four digits, `UTC` may stand
for `Z`, and the parts of an offset need no colon between them. Ranges are checked part by part from
left to right, and whether the day exists only after the whole text has been read.
-/

namespace ProcTrace.Timestamp

open Text (isBlank trimFront utf8Width)

/-- What can be wrong with a timestamp. -/
inductive Fault where
  | outOfRange
  | impossible
  | invalid
  | premature
  | trailing
  deriving DecidableEq, Repr

/-- The words for a fault. -/
def Fault.message : Fault → String
  | .outOfRange => "input is out of range"
  | .impossible => "no possible date and time matching input"
  | .invalid => "input contains invalid characters"
  | .premature => "premature end of input"
  | .trailing => "trailing input"

/-- A number of at least one digit and at most `max`, from the start of the text. -/
def readDigits (max : Option Nat) (s : List Char) : Except Fault (Nat × List Char) :=
  if s = [] then .error .premature
  else
    let ds := match max with
      | none => s.takeWhile Char.isDigit
      | some k => (s.take k).takeWhile Char.isDigit
    if ds = [] then .error .invalid
    else .ok (Nat.ofDigitChars 10 ds 0, s.drop ds.length)

/-- A number of one or two digits in the given range, after blanks. -/
def readPart (low high : Nat) (s : List Char) : Except Fault (Nat × List Char) := do
  let (n, r) ← readDigits (some 2) (trimFront s)
  if low ≤ n ∧ n ≤ high then .ok (n, r) else .error .outOfRange

/-- The years that are taken note of; whether the calendar has them is asked later. -/
def yearLimit : Nat := 2147483648

/-- A year after blanks: four digits at most, or a sign and any number of digits. -/
def readYear (s : List Char) : Except Fault (Int × List Char) :=
  match trimFront s with
  | '-' :: r => do
    let (n, r) ← readDigits none r
    if n ≤ yearLimit then .ok (-(n : Int), r) else .error .outOfRange
  | '+' :: r => do
    let (n, r) ← readDigits none r
    if n < yearLimit then .ok ((n : Int), r) else .error .outOfRange
  | r => do
    let (n, r) ← readDigits (some 4) r
    .ok ((n : Int), r)

/-- The given separator of ASCII, from the start of the text on. -/
def readMark (c : Char) : List Char → Except Fault (List Char)
  | [] => .error .premature
  | d :: r => if d = c then .ok r else .error .invalid

/-- The given separator after blanks. -/
def readMarkAfterBlanks (c : Char) (s : List Char) : Except Fault (List Char) :=
  readMark c (trimFront s)

/-- A fraction of a second in nanoseconds, if there is a point; digits beyond nine are dropped. -/
def readFraction : List Char → Except Fault (Nat × List Char)
  | '.' :: r => do
    let (n, rest) ← readDigits (some 9) r
    let places := r.length - rest.length
    .ok (n * Nat.pow 10 (9 - places), rest.dropWhile Char.isDigit)
  | s => .ok (0, s)

/-- Two digits, which the text must be long enough for in bytes. -/
def readPair (s : List Char) : Except Fault ((Nat × Nat) × List Char) :=
  match s with
  | a :: b :: r =>
    if a.isDigit && b.isDigit then .ok ((a.toNat - '0'.toNat, b.toNat - '0'.toNat), r)
    else .error .invalid
  | s => if utf8Width s < 2 then .error .premature else .error .invalid

/-- The hours and minutes of an offset, in seconds. -/
def readOffsetParts (s : List Char) : Except Fault (Nat × List Char) := do
  let ((h₁, h₂), r) ← readPair s
  let ((m₁, m₂), r) ← readPair (r.dropWhile fun c => c = ':' || isBlank c)
  if m₁ < 6 then .ok ((h₁ * 10 + h₂) * 3600 + (m₁ * 10 + m₂) * 60, r) else .error .outOfRange

/-- An offset from UTC in seconds. The minus sign may be the one of typography, U+2212. -/
def readOffset (s : List Char) : Except Fault (Int × List Char) :=
  match s with
  | [] => .error .premature
  | c :: r =>
    if c = 'Z' ∨ c = 'z' then .ok (0, r)
    else if c = '+' then (readOffsetParts r).map fun (n, r) => ((n : Int), r)
    else if c = '-' ∨ c = '\u2212' then (readOffsetParts r).map fun (n, r) => (-(n : Int), r)
    else .error .invalid

/-- An offset from UTC, or the letters `UTC` in either case. -/
def readZone (s : List Char) : Except Fault (Int × List Char) :=
  if (s.take 3).map Char.toLower = ['u', 't', 'c'] then .ok (0, s.drop 3) else readOffset s

/-- The parts of a timestamp as they are written. -/
structure Parts where
  year : Int
  month : Nat
  day : Nat
  hour : Nat
  minute : Nat
  second : Nat
  nano : Nat
  offset : Int
  deriving DecidableEq, Repr

/-- The separator between the date and the time. -/
def readSeparator : List Char → Except Fault (List Char)
  | [] => .error .premature
  | c :: r => if c = 'T' ∨ c = 't' ∨ c = ' ' then .ok r else .error .invalid

/-- Reads the parts of a timestamp, which has to be the whole text. -/
def readParts (s : List Char) : Except Fault Parts := do
  let (year, s) ← readYear s
  let s ← readMarkAfterBlanks '-' s
  let (month, s) ← readPart 1 12 s
  let s ← readMarkAfterBlanks '-' s
  let (day, s) ← readPart 1 31 s
  let s ← readSeparator s
  let (hour, s) ← readPart 0 23 s
  let s ← readMarkAfterBlanks ':' s
  let (minute, s) ← readPart 0 59 s
  let s ← readMarkAfterBlanks ':' s
  let (second, s) ← readPart 0 60 s
  let (nano, s) ← readFraction s
  let (offset, s) ← readZone (trimFront s)
  if trimFront s = [] then .ok { year, month, day, hour, minute, second, nano, offset }
  else .error .trailing

/-- The instant in UTC of the parts: the local time less the offset. -/
def Parts.instant (p : Parts) : Except Fault Instant :=
  match Date.of? p.year p.month p.day with
  | none => .error .outOfRange
  | some date =>
    match Instant.ofClock? date p.hour p.minute p.second p.nano with
    | none => .error .outOfRange
    | some local_ =>
      if p.offset.natAbs < daySeconds then
        match local_.sub p.offset with
        | some t => .ok t
        | none => .error .impossible
      else .error .outOfRange

/-- The instant that a text names. -/
def read (s : List Char) : Except Fault Instant := do
  (← readParts s).instant

end ProcTrace.Timestamp
