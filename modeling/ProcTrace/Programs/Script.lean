import ProcTrace.Text.Reader

/-!
# Scripts

The scripts of a small shell: commands one after another, each made of words. A word is made of
pieces, which are texts, in quotes or not, and parameters, whose values are put in when the command
is run. Outputs can be sent elsewhere, and a command may depend on the success of the one before it.
-/

namespace ProcTrace.Programs

open Text Text.Reader

/-- A piece of a word. A value that is not in quotes may fall apart into several words. -/
inductive Piece where
  | text (cs : List Char)
  | parameter (name : List Char) (quoted : Bool)
  deriving DecidableEq, Repr

/-- A word of a command. -/
abbrev Word := List Piece

/-- What a command's input or output, which has a number, is connected with. -/
structure Redirection where
  stream : Nat
  duplicates : Bool
  target : Word
  deriving DecidableEq, Repr

/-- Part of a command. -/
inductive Part where
  | word (w : Word)
  | redirection (r : Redirection)
  deriving DecidableEq, Repr

/-- When a command is run. -/
inductive Condition where
  | always
  | afterSuccess
  | afterFailure
  deriving DecidableEq, Repr

/-- A command, and when it is run. -/
structure Command where
  condition : Condition
  parts : List Part
  deriving DecidableEq, Repr

/-! ### Words -/

/-- A blank between words. -/
def isBlank (c : Char) : Bool :=
  c = ' ' || c = '\t'

/-- A character that a name starts with. -/
def isNameStart (c : Char) : Bool :=
  c.isAlpha || c = '_'

/-- A character of a name. -/
def isNameChar (c : Char) : Bool :=
  c.isAlphanum || c = '_'

/-- A parameter that has a sign for its name. -/
def isSign (c : Char) : Bool :=
  "$?#@*!-".toList.contains c || c.isDigit

/-- A character that ends a word. -/
def endsWord (c : Char) : Bool :=
  isBlank c || "\n;&|<>()".toList.contains c

/-- A character that means something of its own inside a word. -/
def isSpecial (c : Char) : Bool :=
  endsWord c || c = '\'' || c = '"' || c = '\\' || c = '$' || c.toNat = 0x60

/-- A backslash with the character that it takes its meaning from; a line end after it is left
out. -/
def escaped : Reader Piece := do
  let _ ← char '\\'
  match ← satisfy fun _ => true with
  | '\n' => pure (.text [])
  | c => pure (.text [c])

/-- The name of a parameter. -/
def parameterName : Reader (List Char) :=
  (do let c ← satisfy isNameStart; let cs ← chars isNameChar; pure (c :: cs)) <|>
    (do pure [← satisfy isSign])

/-- A parameter, or a dollar sign that starts none. -/
def parameter (quoted : Bool) : Reader Piece := do
  let _ ← char '$'
  (do
    let _ ← char '\x7b'
    let name ← must parameterName
    let _ ← must (char '\x7d')
    pure (.parameter name quoted)) <|>
    (do pure (.parameter (← parameterName) quoted)) <|> pure (.text ['$'])

/-- A text between single quotes. -/
def singleQuoted : Reader Word := do
  let _ ← char '\''
  let cs ← chars (· ≠ '\'')
  let _ ← must (char '\'')
  pure [.text cs]

/-- A backslash between double quotes, where it takes the meaning only from few characters. -/
def escapedInQuotes : Reader Piece := do
  let _ ← char '\\'
  (do
    let c ← satisfy fun c => "$\"\\\n".toList.contains c || c.toNat = 0x60
    pure (.text (if c = '\n' then [] else [c]))) <|> pure (.text ['\\'])

/-- A text between double quotes. -/
def doubleQuoted : Reader Word := do
  let _ ← char '"'
  let pieces ← many (escapedInQuotes <|> parameter true <|>
    (do pure (.text (← chars1 fun c => c ≠ '"' && c ≠ '\\' && c ≠ '$' && c.toNat ≠ 0x60))))
  let _ ← must (char '"')
  pure (.text [] :: pieces)

/-- A word. -/
def word : Reader Word := do
  let piece : Reader Word := singleQuoted <|> doubleQuoted <|> (do pure [← escaped]) <|>
    (do pure [← parameter false]) <|> (do pure [.text (← chars1 (!isSpecial ·))])
  let first ← piece
  let rest ← many piece
  pure (first ++ rest.flatten)

/-! ### Commands -/

/-- A change of the place that an input comes from or an output goes to. -/
def redirection : Reader Redirection := do
  let digits ← chars Char.isDigit
  let sign ← char '<' <|> char '>'
  let _ ← optional (char '>')
  let duplicates ← optional (char '&')
  let _ ← chars isBlank
  let target ← must word
  pure
    { stream := if digits = [] then (if sign = '<' then 0 else 1) else Nat.ofDigitChars 10 digits 0
      duplicates := duplicates.isSome, target }

/-- A comment, up to the end of its line. -/
def comment : Reader Unit := do
  let _ ← char '#'
  let _ ← chars (· ≠ '\n')

/-- The parts of a command. -/
def parts : Reader (List Part) := do
  let ps ← many do
    let _ ← chars isBlank
    if (← peek) = some '#' then fail
    else (do pure (.redirection (← redirection))) <|> (do pure (.word (← word)))
  let _ ← chars isBlank
  let _ ← optional comment
  pure ps

/-- What stands between two commands: when the second one is run. Ends of lines and semicolons may
be repeated. -/
def connector : Reader Condition :=
  (do literal "&&"; let _ ← chars fun c => isBlank c || c = '\n'; pure .afterSuccess) <|>
    (do literal "||"; let _ ← chars fun c => isBlank c || c = '\n'; pure .afterFailure) <|>
    (do let _ ← chars1 fun c => isBlank c || c = '\n' || c = ';'; pure .always)

/-- A script. -/
def script : Reader (List Command) := do
  let _ ← optional connector
  let first ← parts
  let rest ← many do
    let condition ← connector
    let ps ← parts
    pure ⟨condition, ps⟩
  atEnd
  pure (⟨.always, first⟩ :: rest)

/-- The commands of a text, if it is a script. -/
def readScript (text : List Char) : Option (List Command) :=
  match script text with
  | .found commands _ => some commands
  | _ => none

end ProcTrace.Programs
