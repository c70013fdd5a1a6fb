import ProcTrace.Text.Utf8
import ProcTrace.Toml.Moment
import ProcTrace.Toml.Number

/-!
# TOML documents

A document is a table. Its lines are headers, which name the table that the lines after them belong
to, and keys with values. A document is refused at the first point where it is not well-formed; a
line that may not add what it adds is refused at its start.
-/

namespace ProcTrace.Toml

open Text Text.Reader

/-! ### Keys -/

/-- A character of a key without quotes. -/
def isBare (c : Char) : Bool :=
  c.isAlphanum || c = '-' || c = '_'

/-- One part of a key. -/
def simpleKey : Reader (List Char) :=
  basicText <|> literalText <|> chars1 isBare

/-- The bound on the depth of values inside each other, and on the number of parts of a key. -/
def depthBound : Nat := 80

/-- A key: the keys of the tables on the way, and the last part. -/
def key : Reader (List String × String) :=
  filterMap
    (fun parts =>
      match (parts.map String.ofList).reverse with
      | last :: path => if parts.length < depthBound then some (path.reverse, last) else none
      | [] => none)
    (separated1 (do blanks; let k ← simpleKey; blanks; pure k) (char '.'))

/-! ### Values -/

/-- The elements of a list, up to its closing bracket. The last one may be followed by a comma. -/
def elements (element : Reader Value) : Reader (List Value) := do
  if (← peek) = some ']' then pure []
  else
    let vs ← separated (do listBlanks; let v ← element; listBlanks; pure v) (char ',')
    if !vs.isEmpty then let _ ← optional (char ',')
    listBlanks
    pure vs

/-- A list. -/
def list (element : Reader Value) : Reader Value := do
  let _ ← char '['
  let vs ← must (elements element)
  let _ ← must (char ']')
  pure (.list false vs)

/-- A key and its value between braces. -/
def member (value : Reader Value) : Reader (List String × String × Value) := do
  let (path, k) ← key
  let _ ← must (char '=')
  blanks
  let v ← must value
  blanks
  pure (path, k, v)

/-- The members of a table between braces, if none of them is in the way of another. -/
def members (value : Reader Value) : Reader Members :=
  filterMap (·.foldlM (fun ms (path, k, v) => Members.insert ms path k v) []) do
    let ps ← separated (member value) (char ',')
    blanks
    pure ps

/-- A table between braces. -/
def inlineTable (value : Reader Value) : Reader Value := do
  let _ ← char '\x7b'
  let ms ← must (members value)
  let _ ← must (char '\x7d')
  pure (.table .inline ms)

/-- A number, or a date or time. -/
def numeric : Reader Value :=
  (do pure (.moment (String.ofList (← moment)))) <|> (do pure (.floating (← float))) <|>
    (do pure (.integer (← integer)))

/-- A value that holds no others. -/
def scalar : Reader Value := do
  match ← peek with
  | some '"' | some '\'' => do pure (.text (String.ofList (← text)))
  | some 't' | some 'f' => do pure (.flag (← boolean))
  | some 'i' | some 'n' | some '.' => do pure (.floating (← float))
  | some '_' => do pure (.integer (← integer))
  | some c => if isDigit c || c = '+' || c = '-' then numeric else fail
  | none => fail

/-- A value that holds values at most so deep. -/
def valueUpTo : Nat → Reader Value
  | 0 => scalar
  | n + 1 => do
    match ← peek with
    | some '[' => list (valueUpTo n)
    | some '\x7b' => inlineTable (valueUpTo n)
    | _ => scalar

/-- A value. -/
def value : Reader Value :=
  valueUpTo (depthBound - 1)

/-! ### Lines -/

/-- A document as far as it has been read: its members, and the path of the last header. -/
structure Draft where
  members : Members := []
  header : List String := []

/-- A key with its value and the rest of its line. -/
def keyLine (d : Draft) : Reader Draft :=
  filterMap (fun (path, k, v) => (d.members.insertUnder d.header path k v).map fun ms =>
      { d with members := ms }) do
    let (path, k) ← key
    let _ ← must (char '=')
    blanks
    let v ← must value
    must lineRest
    pure (path, k, v)

/-- The key between the brackets of a header, with the rest of the line. -/
def headerKey (opening closing : String) : Reader (List String × String) := do
  literal opening
  let k ← must key
  must (literal closing)
  must lineRest
  pure k

/-- A header, of a table or of an element in a list of tables. -/
def headerLine (d : Draft) : Reader Draft :=
  fun s =>
    let (isElement, header) :=
      if "[[".toList.isPrefixOf s then (true, headerKey "[[" "]]") else (false, headerKey "[" "]")
    if s.length < 2 then .absent s
    else filterMap (fun (path, k) =>
      (if isElement then d.members.openElement path k else d.members.openTable path k).map
        fun ms => ⟨ms, path ++ [k]⟩) header s

/-- A line that is not blank, or the end of a line that is. -/
def line (d : Draft) : Reader Draft := do
  match ← peek with
  | some '#' => do must (do comment; lineEnd); pure d
  | some '[' => must (headerLine d)
  | some '\n' | some '\r' => do let _ ← newline; pure d
  | some _ => must (keyLine d)
  | none => fail

/-- At most so many lines. -/
def linesUpTo : Nat → Draft → Reader Draft
  | 0, d => pure d
  | n + 1, d => do
    match ← optional (line d) with
    | some d => do blanks; linesUpTo n d
    | none => pure d

/-- A document, which may start with a byte order mark. -/
def document : Reader Members :=
  fun s => (do
    let _ ← optional (char '\uFEFF')
    blanks
    let d ← linesUpTo s.length {}
    atEnd
    pure d.members) s

/-! ### Documents -/

/-- A place in a document. -/
structure Place where
  line : Nat
  column : Nat
  deriving DecidableEq, Repr

/-- The place at which so much of a text is unread. Lines and columns are counted from one, and
columns in characters; only up to a character outside ASCII they are counted in bytes. The end of
the text is on the line of its last character, even if that is the end of the line. -/
def Place.of (text unread : List Char) : Place :=
  let before := text.take (text.length - unread.length)
  match unread with
  | [] =>
    let lines := before.dropLast.splitOn '\n'
    ⟨lines.length, (lines.getLast?.getD []).length + (before.drop (before.length - 1)).length + 1⟩
  | c :: _ =>
    let lines := before.splitOn '\n'
    let last := lines.getLast?.getD []
    ⟨lines.length, if c.toNat < 128 then last.length + 1 else utf8Width last + 1⟩

/-- The members of a document, or the place at which it is not well-formed. -/
def parse (text : String) : Except Place Members :=
  match document text.toList with
  | .found ms _ => .ok ms
  | .absent u | .broken u => .error (.of text.toList u)

end ProcTrace.Toml
