/-!
# Writing JSON texts

The one form in which this library writes JSON: no spaces between tokens, members in the order of
the record, and of the characters of a text only the quote, the backslash and the controls of ASCII
escaped.
-/

namespace ProcTrace.Json

/-- The two hexadecimal digits of a control character. -/
def controlDigits (n : Nat) : List Char :=
  [Nat.digitChar (n / 16), Nat.digitChar (n % 16)]

/-- A character inside a text in quotes. -/
def escapeChar (c : Char) : List Char :=
  if c = '"' then ['\\', '"']
  else if c = '\\' then ['\\', '\\']
  else if c = '\x08' then ['\\', 'b']
  else if c = '\t' then ['\\', 't']
  else if c = '\n' then ['\\', 'n']
  else if c = '\x0c' then ['\\', 'f']
  else if c = '\r' then ['\\', 'r']
  else if c.toNat < 0x20 then '\\' :: 'u' :: '0' :: '0' :: controlDigits c.toNat
  else [c]

/-- A text in quotes. -/
def writeText (cs : List Char) : List Char :=
  '"' :: cs.flatMap escapeChar ++ ['"']

/-- An unsigned integer. -/
def writeNat (n : Nat) : List Char :=
  Nat.toDigits 10 n

/-- Written values with commas between them. -/
def separated : List (List Char) → List Char
  | [] => []
  | [v] => v
  | v :: vs => v ++ ',' :: separated vs

/-- A list of written values. -/
def writeList (vs : List (List Char)) : List Char :=
  '[' :: separated vs ++ [']']

/-- An object of names and written values. -/
def writeObject (members : List (String × List Char)) : List Char :=
  '{' :: separated (members.map fun (key, v) => writeText key.toList ++ ':' :: v) ++ ['}']

end ProcTrace.Json
