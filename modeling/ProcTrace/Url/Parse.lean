import ProcTrace.Url.Basic

/-!
# Parsing URLs

A text is taken apart at its marks: the fragment after the first `#`, the query after the first `?`,
the scheme before the first colon, then the authority and the path. A text without a scheme is a
reference, which is completed from a base (`Url.parseWith`). Within special URLs a backslash
separates like a slash.
-/

namespace ProcTrace.Url

/-! ### Cutting -/

/-- The text before the first of the given characters, and the text after it if there is one. -/
def cut (mark : Char) (cs : List Char) : List Char × Option (List Char) :=
  match cs.dropWhile (· ≠ mark) with
  | [] => (cs, none)
  | _ :: r => (cs.takeWhile (· ≠ mark), some r)

/-- The text before the last of the given characters and the text after it. -/
def cutLast (mark : Char) (cs : List Char) : Option (List Char × List Char) :=
  match cut mark cs.reverse with
  | (after, some before) => some (before.reverse, after.reverse)
  | (_, none) => none

/-- The text without controls and spaces at its ends and without tabs and line breaks. -/
def tidy (cs : List Char) : List Char :=
  let blank (c : Char) : Bool := c.toNat ≤ 0x20
  (((cs.dropWhile blank).reverse.dropWhile blank).reverse).filter
    fun c => !(c = '\t' || c = '\n' || c = '\r')

def isLetter (c : Char) : Bool :=
  c.isAlpha

def isSchemeChar (c : Char) : Bool :=
  c.isAlphanum || c = '+' || c = '-' || c = '.'

/-- The scheme in small letters, and the text after its colon. -/
def splitScheme (cs : List Char) : Option (List Char × List Char) :=
  match cut ':' cs with
  | (s, some r) =>
    if s.head?.any isLetter && s.all isSchemeChar then some (s.map Char.toLower, r) else none
  | (_, none) => none

/-- The slash, and in special URLs the backslash. -/
def isSlash (special : Bool) (c : Char) : Bool :=
  c = '/' || (special && c = '\\')

/-! ### Authorities -/

/-- The user and the password before the at sign. -/
def parseUser (cs : List Char) : List Char × Option (List Char) :=
  let (user, password) := cut ':' cs
  (percentEncode escapedInUserInfo user,
    match password with
    | some [] => none
    | some p => some (percentEncode escapedInUserInfo p)
    | none => none)

/-- The text of the host and what follows it, which starts with a colon: the first one that is not
between brackets. -/
def splitHost : Bool → List Char → List Char × List Char
  | _, [] => ([], [])
  | inBrackets, c :: r =>
    if c = ':' ∧ !inBrackets then ([], c :: r)
    else
      let (h, p) := splitHost (if c = '[' then true else if c = ']' then false else inBrackets) r
      (c :: h, p)

/-- The greatest port. -/
def portMax : Nat := 65535

/-- The port after the colon; the usual port of the scheme is not kept. -/
def parsePort (scheme : List Char) (cs : List Char) : Option (Option Nat) :=
  if cs.all Char.isDigit then
    let n := Nat.ofDigitChars 10 cs 0
    if portMax < n then none
    else some (if cs = [] ∨ defaultPort scheme = some n then none else some n)
  else none

/-- The authority of a URL. Of a user, a port or a special scheme there is none without a host. -/
def parseAuthority (scheme : List Char) (cs : List Char) : Option Authority := do
  let special := isSpecial scheme
  let (user, rest) := match cutLast '@' cs with
    | some (u, r) => (some u, r)
    | none => (none, cs)
  let (hostText, portText) := splitHost false rest
  if hostText = [] ∧ (special ∨ user.isSome ∨ portText ≠ []) then none
  else
    let host ← if special then Host.parse hostText else Host.parseOpaque hostText
    let port ← parsePort scheme (portText.drop 1)
    let (username, password) := parseUser (user.getD [])
    some { username, password, host, port }

/-! ### Paths -/

/-- The two spellings of a dot in a path. -/
def dotForms : List (List Char) :=
  [['.'], ['%', '2', 'e']]

/-- The segment stands for the segment itself. -/
def isSingleDot (s : List Char) : Bool :=
  dotForms.contains (s.map Char.toLower)

/-- The segment stands for the one before it. -/
def isDoubleDot (s : List Char) : Bool :=
  (dotForms.flatMap fun a => dotForms.map (a ++ ·)).contains (s.map Char.toLower)

/-- A letter and a colon or a bar: the first segment of a path on a drive. -/
def isDrive : List Char → Bool
  | [a, b] => isLetter a && (b = ':' || b = '|')
  | _ => false

/-- The path without its last segment; a drive stays. -/
def pop (scheme : List Char) (done : List (List Char)) : List (List Char) :=
  if scheme = "file".toList && done.length = 1 && done.all isDrive then done else done.dropLast

/-- The path that is reached from another one by the given segments, of which dots are not kept. -/
def walk (scheme : List Char) (done : List (List Char)) : List (List Char) → List (List Char)
  | [] => done
  | s :: rest =>
    if isDoubleDot s then
      walk scheme (pop scheme done ++ if rest = [] then [[]] else []) rest
    else if isSingleDot s then walk scheme (done ++ if rest = [] then [[]] else []) rest
    else if scheme = "file".toList && done = [] && isDrive s then
      walk scheme [s.take 1 ++ [':']] rest
    else walk scheme (done ++ [percentEncode escapedInPath s]) rest

/-- The segments between slashes. -/
def splitSegments (special : Bool) (cs : List Char) : List (List Char) :=
  (cs.map fun c => if isSlash special c then '/' else c).splitOn '/'

/-- Files have no empty segments at the start of their paths. -/
def trimSegments (scheme : List Char) (ss : List (List Char)) : List (List Char) :=
  if scheme = "file".toList then
    match ss.dropWhile (· = []) with
    | [] => [[]]
    | ss => ss
  else ss

/-- The path of a text that starts with a slash or is empty, after the segments of a base. -/
def parsePath (scheme : List Char) (base : List (List Char)) (cs : List Char) : Path :=
  let special := isSpecial scheme
  let body := match cs with
    | c :: r => if isSlash special c then r else cs
    | [] => []
  if cs = [] ∧ !special then .segments base
  else .segments (trimSegments scheme (walk scheme base (splitSegments special body)))

/-! ### URLs -/

/-- The query of a URL. -/
def parseQuery (scheme : List Char) (cs : Option (List Char)) : Option (List Char) :=
  cs.map (percentEncode (if isSpecial scheme then escapedInSpecialQuery else escapedInQuery))

/-- The fragment of a URL. -/
def parseFragment (cs : Option (List Char)) : Option (List Char) :=
  cs.map (percentEncode escapedInFragment)

/-- The URL whose authority starts the text. -/
def parseFromAuthority (scheme : List Char) (cs : List Char) : Option (Authority × Path) := do
  let slash := isSlash (isSpecial scheme)
  let authority ← parseAuthority scheme (cs.takeWhile (!slash ·))
  some (authority, parsePath scheme [] (cs.dropWhile (!slash ·)))

/-- The authority that every file has when it names no host. -/
def noHost : Authority :=
  ⟨[], none, .domain [], none⟩

/-- The authority and the path of a file. The local machine is not named, and a drive in the place
of the host belongs to the path. -/
def parseFile (base : Option Url) (cs : List Char) : Option (Authority × Path) :=
  let scheme := "file".toList
  let slash := isSlash true
  let baseSegments := match base with
    | some { scheme := s, path := .segments ss, .. } => if s = scheme then ss else []
    | _ => []
  match cs with
  | a :: b :: r =>
    if slash a && slash b then
      let host := r.takeWhile (!slash ·)
      let rest := r.dropWhile (!slash ·)
      if isDrive host then some (noHost, parsePath scheme [] ('/' :: r))
      else if host = [] then some (noHost, parsePath scheme [] rest)
      else (Host.parse host).map fun h =>
        (if h = .domain "localhost".toList then noHost else ⟨[], none, h, none⟩,
          parsePath scheme [] rest)
    else if slash a then some (noHost, parsePath scheme [] cs)
    else some (noHost, parsePath scheme (baseSegments.dropLast) cs)
  | [a] => some (noHost, parsePath scheme (if slash a then [] else baseSegments.dropLast) cs)
  | [] => some (noHost, if baseSegments = [] then .segments [[]] else .segments baseSegments)

/-- The URL of a text that has a scheme, which has been taken off, together with the query and the
fragment. -/
def parseAbsolute (scheme : List Char) (cs : List Char) (query fragment : Option (List Char)) :
    Option Url := do
  let finish (authority : Option Authority) (path : Path) : Url :=
    { scheme, authority, path, query := parseQuery scheme query
      fragment := parseFragment fragment }
  if scheme = "file".toList then
    let (a, p) ← parseFile none cs
    some (finish (some a) p)
  else if isSpecial scheme then
    let (a, p) ← parseFromAuthority scheme (cs.dropWhile (isSlash true))
    some (finish (some a) p)
  else
    match cs with
    | '/' :: '/' :: r => do
      let (a, p) ← parseFromAuthority scheme r
      some (finish (some a) p)
    | '/' :: r => some (finish none (parsePath scheme [] ('/' :: r)))
    | _ => some (finish none (.opaqueText (percentEncode isControl cs)))

/-- The URL that a reference leads to from a base: what the reference does not name is that of the
base. -/
def parseRelative (base : Url) (cs : List Char) (query fragment : Option (List Char)) :
    Option Url :=
  let special := isSpecial base.scheme
  let slash := isSlash special
  let finish (authority : Option Authority) (path : Path) (query : Option (List Char)) : Url :=
    { scheme := base.scheme, authority, path, query, fragment := parseFragment fragment }
  match base.path with
  | .opaqueText _ =>
    if cs = [] ∧ query = none ∧ fragment ≠ none then
      some (finish base.authority base.path base.query)
    else none
  | .segments ss =>
    let given := parseQuery base.scheme query
    if base.scheme = "file".toList then
      (parseFile (some base) cs).map fun (a, p) =>
        finish (some a) p (if cs = [] ∧ query = none then base.query else given)
    else match cs with
      | [] => some (finish base.authority base.path (if query = none then base.query else given))
      | a :: b :: r =>
        if slash a && slash b then
          (parseFromAuthority base.scheme (if special then r.dropWhile slash else r)).map
            fun (a, p) => finish (some a) p given
        else if slash a then
          some (finish base.authority (parsePath base.scheme [] cs) given)
        else some (finish base.authority (parsePath base.scheme ss.dropLast cs) given)
      | [a] =>
        some (finish base.authority
          (parsePath base.scheme (if slash a then [] else ss.dropLast) cs) given)

/-- The URL of a text, a reference being completed from the base if there is one. -/
def parseWith (base : Option Url) (text : List Char) : Option Url :=
  let (front, fragment) := cut '#' (tidy text)
  let (body, query) := cut '?' front
  match splitScheme body with
  | some (scheme, cs) =>
    match base with
    | some b =>
      -- a special scheme without two slashes only repeats the scheme of the base
      let slashes := (cs.takeWhile (isSlash true)).length
      if scheme = b.scheme ∧ isSpecial scheme ∧ slashes < 2 then
        parseRelative b cs query fragment
      else parseAbsolute scheme cs query fragment
    | none => parseAbsolute scheme cs query fragment
  | none =>
    match base with
    | some b => parseRelative b body query fragment
    | none => none

/-- The URL of a text that needs no base. -/
def parse (text : String) : Option Url :=
  parseWith none text.toList

end ProcTrace.Url
