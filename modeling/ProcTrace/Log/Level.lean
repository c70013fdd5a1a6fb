/-!
# Levels

How much an event matters, and how much of what is reported is shown. A **threshold** is the number
of levels that are shown, counted from the most important one; the greatest threshold shows traces
as well, of which there are none here.
-/

namespace ProcTrace

/-- How much an event matters. -/
inductive Level where
  | debug
  | info
  | warn
  | error
  deriving DecidableEq, Repr

namespace Level

/-- The word for a level. -/
def name : Level → String
  | .debug => "DEBUG"
  | .info => "INFO"
  | .warn => "WARN"
  | .error => "ERROR"

/-- The least threshold that shows the level. -/
def rank : Level → Nat
  | .error => 1
  | .warn => 2
  | .info => 3
  | .debug => 4

end Level

/-- The threshold that shows everything. -/
def thresholdMax : Nat := 5

/-- The words for thresholds. -/
def thresholdWords : List (String × Nat) :=
  [("off", 0), ("error", 1), ("warn", 2), ("info", 3), ("debug", 4), ("trace", 5)]

/-- The threshold that a text names by a word in any case or by its number. -/
def threshold? (cs : List Char) : Option Nat :=
  let digits := match cs with
    | '+' :: r => r
    | _ => cs
  if digits ≠ [] ∧ digits.all Char.isDigit then
    let n := Nat.ofDigitChars 10 digits 0
    if n ≤ thresholdMax then some n else none
  else thresholdWords.lookup (String.ofList (cs.map Char.toLower))

end ProcTrace
