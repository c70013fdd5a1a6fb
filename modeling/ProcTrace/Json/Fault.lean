import ProcTrace.Decimal.Shortest
import ProcTrace.Text.Quoted

/-!
# Faults of JSON texts

What can be wrong with a JSON text that a value is read from, and where. A fault keeps its
**cause** and the part of the text that was unread when it was noticed; its place, a line and a
column, is worked out from the whole text when the fault is reported.
-/

namespace ProcTrace.Json

/-- What stood in the text where something else was wanted. -/
inductive Found where
  | null
  | bool (b : Bool)
  | integer (n : Int)
  | double (d : Decimal.Double)
  | text (cs : List Char)
  | list
  | object
  deriving DecidableEq, Repr

/-- Floating point numbers in messages always show a point or an exponent; the exponent comes in
from `1e16` upwards and below `0.00001`. -/
def numberLayout : Decimal.Layout where
  exponentFrom := some 17
  zerosUpTo := 4
  keepsPoint := true

/-- The words for what was found. -/
def Found.describe : Found → String
  | .null => "null"
  | .bool b => s!"boolean `{b}`"
  | .integer n => s!"integer `{n}`"
  | .double d => s!"floating point `{String.ofList (numberLayout.text d)}`"
  | .text cs => s!"string {String.ofList (Text.quote cs)}"
  | .list => "sequence"
  | .object => "map"

/-- What can be wrong with a JSON text. -/
inductive Cause where
  | endOfList
  | endOfObject
  | endOfText
  | endOfValue
  | colonWanted
  | listCommaOrEndWanted
  | objectCommaOrEndWanted
  | literalWanted
  | valueWanted
  | badEscape
  | badNumber
  | numberTooLarge
  | controlInText
  | keyNotText
  | loneSurrogate
  | shortHexEscape
  | trailingComma
  | trailingText
  /-- A value of another kind than the wanted one. -/
  | mismatch (found : Found) (wanted : String)
  /-- An integer outside the range of the wanted kind. -/
  | outOfRange (n : Int) (wanted : String)
  /-- An object without a member it must have. -/
  | missing (key : String)
  /-- An object with two members of one name that it may have once. -/
  | repeated (key : String)
  /-- A list in place of an object, with too few elements for its members. -/
  | tooShort (length : Nat) (wanted : String)
  /-- A text that its member does not accept, and why. -/
  | refused (reason : String)
  deriving DecidableEq, Repr

/-- The words for a cause. -/
def Cause.message : Cause → String
  | .endOfList => "EOF while parsing a list"
  | .endOfObject => "EOF while parsing an object"
  | .endOfText => "EOF while parsing a string"
  | .endOfValue => "EOF while parsing a value"
  | .colonWanted => "expected `:`"
  | .listCommaOrEndWanted => "expected `,` or `]`"
  | .objectCommaOrEndWanted => "expected `,` or `\x7d`"
  | .literalWanted => "expected ident"
  | .valueWanted => "expected value"
  | .badEscape => "invalid escape"
  | .badNumber => "invalid number"
  | .numberTooLarge => "number out of range"
  | .controlInText =>
    "control character (\\u0000-\\u001F) found while parsing a string"
  | .keyNotText => "key must be a string"
  | .loneSurrogate => "lone leading surrogate in hex escape"
  | .shortHexEscape => "unexpected end of hex escape"
  | .trailingComma => "trailing comma"
  | .trailingText => "trailing characters"
  | .mismatch found wanted => s!"invalid type: {found.describe}, expected {wanted}"
  | .outOfRange n wanted => s!"invalid value: integer `{n}`, expected {wanted}"
  | .missing key => s!"missing field `{key}`"
  | .repeated key => s!"duplicate field `{key}`"
  | .tooShort length wanted => s!"invalid length {length}, expected {wanted}"
  | .refused reason => reason

/-- A cause, the text that was unread when it was noticed, and the number of bytes of that text
that had been looked at already. -/
structure Fault where
  cause : Cause
  unread : List Char
  seen : Nat
  deriving DecidableEq, Repr

/-- The fault at the start of the unread text. -/
def Fault.here (cause : Cause) (unread : List Char) : Fault :=
  ⟨cause, unread, 0⟩

/-- The fault that blames the next byte of the unread text, if there is one. -/
def Fault.next (cause : Cause) : List Char → Fault
  | [] => ⟨cause, [], 0⟩
  | unread => ⟨cause, unread, 1⟩

/-- A place in a text: the line, counted from one, and the number of bytes before the place on its
line. -/
structure Place where
  line : Nat
  column : Nat
  deriving DecidableEq, Repr

/-- The start of a text. -/
def Place.first : Place :=
  ⟨1, 0⟩

/-- The place after one more character. -/
def Place.step (p : Place) (c : Char) : Place :=
  if c = '\n' then ⟨p.line + 1, 0⟩ else ⟨p.line, p.column + c.utf8Size⟩

/-- The place after a text that starts at the given place. -/
def Place.after (p : Place) (cs : List Char) : Place :=
  cs.foldl Place.step p

/-- The place of a fault in the whole text. -/
def Fault.place (f : Fault) (whole : List Char) : Place :=
  let start := Place.first.after (whole.take (whole.length - f.unread.length))
  if f.seen = 0 then start
  else match f.unread with
    | '\n' :: _ => start.step '\n'
    | _ => ⟨start.line, start.column + f.seen⟩

/-- The report of a fault in the whole text. -/
def Fault.message (f : Fault) (whole : List Char) : String :=
  let p := f.place whole
  s!"{f.cause.message} at line {p.line} column {p.column}"

end ProcTrace.Json
