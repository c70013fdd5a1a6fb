import ProcTrace.Toml.Text
import ProcTrace.Toml.Value

/-!
# TOML numbers and booleans

Integers are decimal, or hexadecimal, octal or binary behind a mark, and fit into 64 bits with a
sign. Floating point numbers have a fraction or an exponent and do not exceed the greatest finite
number, though the text may name the infinities. Single underscores may stand between digits.
-/

namespace ProcTrace.Toml

open Text Text.Reader

/-- A decimal digit. -/
def isDigit (c : Char) : Bool :=
  c.isDigit

/-- Digits of some kind, with single underscores between them. -/
def digits (f : Char → Bool) : Reader (List Char) := do
  let c ← satisfy f
  let rest ← many (satisfy f <|> (do let _ ← char '_'; must (satisfy f)))
  pure (c :: rest)

/-- A sign; the number is negative if it is a minus sign. -/
def sign : Reader Bool := do
  let c ← optional (char '+' <|> char '-')
  pure (c = some '-')

/-- A decimal integer with its sign. A zero at the start is the only digit. -/
def decimal : Reader (Bool × List Char) := do
  let negative ← sign
  let cs ← (do ahead (satisfy fun c => isDigit c && c ≠ '0'); digits isDigit) <|>
    (do pure [← satisfy isDigit])
  pure (negative, cs)

/-- The number with a sign and decimal digits. -/
def signed (negative : Bool) (cs : List Char) : Int :=
  if negative then -ofDigits 10 cs else ofDigits 10 cs

/-! ### Integers -/

/-- The bases that have a mark, with their digits. -/
def markedBases : List (String × Nat × (Char → Bool)) :=
  [("0x", 16, isHexDigit), ("0o", 8, fun c => '0' ≤ c && c ≤ '7'),
    ("0b", 2, fun c => c = '0' || c = '1')]

/-- The integer fits into 64 bits with a sign. -/
def fits (n : Int) : Bool :=
  Int64.minValue.toInt ≤ n && n ≤ Int64.maxValue.toInt

/-- An integer that fits. -/
def fitting (n : Int) : Option Int :=
  if fits n then some n else none

/-- An integer behind the mark of its base. -/
def markedInteger (mark : String) (base : Nat) (f : Char → Bool) : Reader Int :=
  mustMap (fun cs => fitting (ofDigits base cs)) do
    literal mark
    must (digits f)

/-- An integer. -/
def integer : Reader Int :=
  fun s =>
    match markedBases.find? fun (mark, _) => mark.toList.isPrefixOf s with
    | some (mark, base, f) => markedInteger mark base f s
    | none => mustMap (fun (negative, cs) => fitting (signed negative cs)) decimal s

/-! ### Floating point numbers -/

/-- The exponent of a floating point number. -/
def exponent : Reader Int := do
  let _ ← char 'e' <|> char 'E'
  let negative ← sign
  pure (signed negative (← must (digits isDigit)))

/-- The digits after the point of a floating point number. -/
def fraction : Reader (List Char) := do
  let _ ← char '.'
  must (digits isDigit)

/-- A floating point number in digits. -/
def digitFloat : Reader Decimal.Double := do
  let (negative, whole) ← decimal
  let (part, e) ← (do pure ([], ← exponent)) <|>
    (do
      let part ← fraction
      let e ← optional exponent
      pure (part, e.getD 0))
  pure (Decimal.Double.ofDecimal negative (ofDigits 10 (whole ++ part)) (e - part.length))

/-- A number that is not beyond all positive finite ones. -/
def bounded (d : Decimal.Double) : Option Decimal.Double :=
  if d = .infinite false then none else some d

/-- A floating point number in letters. -/
def namedFloat : Reader Decimal.Double := do
  let negative ← sign
  (do literal "inf"; pure (.infinite negative)) <|> (do literal "nan"; pure .nan)

/-- A floating point number. -/
def float : Reader Decimal.Double :=
  mustMap bounded digitFloat <|> namedFloat

/-! ### Booleans -/

/-- A boolean, which its first letter announces. -/
def boolean : Reader Bool := do
  match ← peek with
  | some 't' => do must (literal "true"); pure true
  | some 'f' => do must (literal "false"); pure false
  | _ => fail

end ProcTrace.Toml
