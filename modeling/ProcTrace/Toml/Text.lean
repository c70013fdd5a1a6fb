import ProcTrace.Toml.Layout

/-!
# TOML texts

Texts stand between double quotes, where a backslash starts an escape, or between single quotes,
where nothing is escaped. Three quotes in a row begin a text that may run over several lines; the
line end right after them is not part of it.
-/

namespace ProcTrace.Toml

open Text Text.Reader

/-! ### Escapes -/

/-- A hexadecimal digit. -/
def isHexDigit (c : Char) : Bool :=
  c.isDigit || ('a' ≤ c && c ≤ 'f') || ('A' ≤ c && c ≤ 'F')

/-- The value of a digit of some base up to sixteen. -/
def digitValue (c : Char) : Nat :=
  if c.isDigit then c.toNat - '0'.toNat else c.toLower.toNat - 'a'.toNat + 10

/-- The number with the given digits. -/
def ofDigits (base : Nat) (cs : List Char) : Nat :=
  cs.foldl (fun n c => n * base + digitValue c) 0

/-- The character with a number, if there is one. -/
def char? (n : Nat) : Option Char :=
  if n.isValidChar then some (Char.ofNat n) else none

/-- The character that exactly so many hexadecimal digits stand for. -/
def escapedNumber (digits : Nat) : Reader Char :=
  filterMap (fun cs => char? (ofDigits 16 cs)) (count digits isHexDigit)

/-- The text is broken after a character that no escape begins with. Outside ASCII the character
itself is blamed. -/
def brokenEscape (c : Char) : Reader Char :=
  fun r => .broken (if c.toNat < 128 then r else c :: r)

/-- The character that stands behind a backslash. -/
def escape : Reader Char := do
  let _ ← char '\\'
  match ← satisfy fun _ => true with
  | 'b' => pure '\x08'
  | 'f' => pure '\x0c'
  | 'n' => pure '\n'
  | 'r' => pure '\r'
  | 't' => pure '\t'
  | 'u' => must (escapedNumber 4)
  | 'U' => must (escapedNumber 8)
  | '\\' => pure '\\'
  | '"' => pure '"'
  | c => brokenEscape c

/-! ### Texts on one line -/

/-- A character between double quotes that stands for itself. -/
def isPlain (c : Char) : Bool :=
  isInLine c && c ≠ '"' && c ≠ '\\'

/-- A character between single quotes. -/
def isLiteral (c : Char) : Bool :=
  isInLine c && c ≠ '\''

/-- A text between double quotes. -/
def basicText : Reader (List Char) := do
  let _ ← char '"'
  let parts ← many (chars1 isPlain <|> (do pure [← escape]))
  let _ ← must (char '"')
  pure parts.flatten

/-- A text between single quotes. -/
def literalText : Reader (List Char) := do
  let _ ← char '\''
  let cs ← chars isLiteral
  let _ ← must (char '\'')
  pure cs

/-! ### Texts on several lines -/

/-- A backslash at the end of a line takes the line end and the blanks after it out of the text. -/
def joinedLines : Reader (List Char) := do
  let _ ← char '\\'
  blanks
  let _ ← newline
  let _ ← many ((do let _ ← newline) <|> (do let _ ← chars1 isBlank))
  pure []

/-- A line end inside a text is a line feed, however it is written. -/
def lineFeed : Reader (List Char) := do
  let c ← newline
  pure [c]

/-- Two quotes or one, before something that may follow them. -/
def innerQuotes (quote : Char) (next : Reader Unit) : Reader (List Char) :=
  (do literal (String.ofList [quote, quote]); ahead next; pure [quote, quote]) <|>
    (do let _ ← char quote; ahead next; pure [quote])

/-- A character other than the quote. -/
def otherThan (quote : Char) : Reader Unit := do
  let _ ← satisfy (· ≠ quote)

/-- Part of a text between three double quotes each. -/
def basicPart : Reader (List Char) :=
  chars1 isPlain <|> joinedLines <|> (do pure [← escape]) <|> lineFeed

/-- A text between three double quotes each. -/
def basicLines : Reader (List Char) := do
  let delimiter := literal "\"\"\""
  delimiter
  let _ ← optional newline
  let start ← many basicPart
  let rest ← many do
    let quotes ← innerQuotes '"' (otherThan '"')
    let part ← mustHere basicPart
    let parts ← many basicPart
    pure (quotes ++ part ++ parts.flatten)
  let final ← optional (innerQuotes '"' delimiter)
  must delimiter
  pure (start.flatten ++ rest.flatten ++ final.getD [])

/-- Part of a text between three single quotes each. -/
def literalPart : Reader (List Char) :=
  chars1 isLiteral <|> lineFeed

/-- A text between three single quotes each. -/
def literalLines : Reader (List Char) := do
  let delimiter := literal "'''"
  delimiter
  let _ ← optional newline
  let start ← many literalPart
  let rest ← many do
    let quotes ← innerQuotes '\'' (otherThan '\'')
    let part ← literalPart
    let parts ← many literalPart
    pure (quotes ++ part ++ parts.flatten)
  let final ← optional (innerQuotes '\'' delimiter)
  must delimiter
  pure (start.flatten ++ rest.flatten ++ final.getD [])

/-- A text in any of the four forms. -/
def text : Reader (List Char) :=
  basicLines <|> basicText <|> literalLines <|> literalText

end ProcTrace.Toml
