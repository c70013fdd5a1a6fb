import ProcTrace.Unicode.Extending

/-!
# Quoted texts

How a text is shown inside a message: between double quotes, with a backslash before a quote or a
backslash, the short names of the usual control characters, and the number of every other character
that cannot be seen by itself.
-/

namespace ProcTrace.Text

/-- The number of a character, in lower-case hexadecimal digits and without leading zeros. -/
def hexNumber (c : Char) : List Char :=
  Nat.toDigits 16 c.toNat

/-- A character outside ASCII that a quoted text shows as itself: one that can be seen and does not
merge with the character before it. -/
def isPrintable (c : Char) : Bool :=
  !Unicode.invisible.mem c && !Unicode.extending.mem c

/-- One character as a quoted text shows it. -/
def quoteChar (c : Char) : List Char :=
  if c = '"' then ['\\', '"']
  else if c = '\\' then ['\\', '\\']
  else if c = '\n' then ['\\', 'n']
  else if c = '\r' then ['\\', 'r']
  else if c = '\t' then ['\\', 't']
  else if c = '\x00' then ['\\', '0']
  else if (0x20 ≤ c.toNat && c.toNat < 0x7F) || (0x80 ≤ c.toNat && isPrintable c) then [c]
  else ['\\', 'u', '\x7b'] ++ hexNumber c ++ ['\x7d']

/-- The quoted form of a text. -/
def quote (cs : List Char) : List Char :=
  '"' :: cs.flatMap quoteChar ++ ['"']

end ProcTrace.Text
