/-!
# Media types

The kind of a body as its header writes it: a type, a subtype and parameters. Only one parameter
matters here, the encoding of the text, and only if the whole value is well-formed.
-/

namespace ProcTrace.Http.MediaType

/-- The character may stand in a token. -/
def isTokenChar (c : Char) : Bool :=
  c.isAlphanum || "!#$%&'*+-.^_|~".toList.contains c || c.toNat = 0x60

/-- The character may stand between quotes. -/
def isQuotable (c : Char) : Bool :=
  0x1F < c.toNat && c.toNat ≠ 0x7F

/-- What follows a value: nothing, or the text after a semicolon. -/
def afterValue (cs : List Char) : Option (List Char) :=
  match cs with
  | [] => some []
  | ';' :: r => some r
  | _ => none

/-- The text up to the closing quote, a backslash taking the next character along, and the text
after the quote. -/
def quoted : List Char → Option (List Char × List Char)
  | '"' :: r => some ([], r)
  | '\\' :: c :: r =>
    if isQuotable c then (quoted r).map fun (v, rest) => ('\\' :: c :: v, rest) else none
  | c :: r => if isQuotable c then (quoted r).map fun (v, rest) => (c :: v, rest) else none
  | [] => none

/-- The value of a parameter and the text of the parameters that follow it. -/
def value (cs : List Char) : Option (List Char × List Char) :=
  match cs with
  | '"' :: r => do
    let (v, rest) ← quoted r
    let rest ← afterValue (rest.dropWhile (· = ' '))
    if v = [] then none else some (v, rest)
  | _ => do
    let v := cs.takeWhile isTokenChar
    let after := cs.dropWhile isTokenChar
    let rest ← afterValue after
    if v = [] ∧ after ≠ [] then none else some (v, rest)

/-- The names and values of the parameters; a list of names as long as the text is gone through. -/
def parameters : Nat → List Char → Option (List (List Char × List Char))
  | _, [] => some []
  | 0, _ => none
  | n + 1, cs => do
    let cs := cs.dropWhile (· = ' ')
    let name := cs.takeWhile isTokenChar
    match cs.dropWhile isTokenChar with
    | '=' :: r =>
      if name = [] then none
      else
        let (v, rest) ← value r
        (parameters n rest).map ((name.map Char.toLower, v) :: ·)
    | _ => none

/-- The text after a token and the given mark, or nothing if the token ends the text. -/
def afterToken (mark : Char) (cs : List Char) : Option (Option (List Char)) :=
  if cs.takeWhile isTokenChar = [] then none
  else match cs.dropWhile isTokenChar with
    | [] => some none
    | c :: r => if c = mark then some (some r) else none

/-- The label of the encoding that the value of a header names. -/
def charset? (cs : List Char) : Option (List Char) := do
  let subtype ← (← afterToken '/' cs)
  let params ← (← afterToken ';' subtype)
  (← parameters params.length params).lookup "charset".toList

end ProcTrace.Http.MediaType
