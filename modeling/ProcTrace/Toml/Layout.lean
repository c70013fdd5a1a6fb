import ProcTrace.Text.Reader

/-!
# Blanks, comments and line ends

What a TOML document has between its values. Lines end with a line feed, which may follow a
carriage return; a carriage return alone ends nothing.
-/

namespace ProcTrace.Toml

open Text Text.Reader

/-- A blank inside a line. -/
def isBlank (c : Char) : Bool :=
  c = ' ' || c = '\t'

/-- A character that a comment may hold. -/
def isInLine (c : Char) : Bool :=
  c = '\t' || (0x20 ≤ c.toNat && c.toNat ≠ 0x7F)

/-- The blanks inside a line. -/
def blanks : Reader Unit := do
  let _ ← chars isBlank

/-- The end of a line. -/
def newline : Reader Char :=
  char '\n' <|> (do let _ ← char '\r'; char '\n')

/-- A comment without the end of its line. -/
def comment : Reader Unit := do
  let _ ← char '#'
  let _ ← chars isInLine

/-- The end of a line or of the text. -/
def lineEnd : Reader Unit :=
  (do let _ ← newline) <|> atEnd

/-- What may follow the last value on a line. -/
def lineRest : Reader Unit := do
  blanks
  let _ ← optional comment
  lineEnd

/-- Blanks, line ends and comments with their line ends, at most so many lines of them. -/
def listBlanksUpTo : Nat → Reader Unit
  | 0 => blanks
  | n + 1 => do
    blanks
    match ← peek with
    | some '#' => do comment; let _ ← newline; listBlanksUpTo n
    | some '\n' | some '\r' => do let _ ← newline; listBlanksUpTo n
    | _ => pure ()

/-- What may stand around the values of a list: blanks, line ends, and comments with their line
ends. -/
def listBlanks : Reader Unit :=
  fun s => listBlanksUpTo s.length s

end ProcTrace.Toml
