import ProcTrace.Settings.Node

/-!
# Keys as paths

The top key of a setting may be a path: names after points and indices between brackets lead into
tables and lists. A key that cannot be read as a path is a name as it stands.
-/

namespace ProcTrace.Settings

/-- A character of a name in a path. -/
def isNameChar (c : Char) : Bool :=
  c.isAlphanum || c = ' ' || c = '_' || c = '-'

/-- A blank beside an index. -/
def isIndexBlank (c : Char) : Bool :=
  c = ' ' || c = '\t' || c = '\n' || c = '\r'

/-- The index between brackets fits into 64 bits with a sign. -/
def index? (negative : Bool) (digits : List Char) : Option Int :=
  let n : Int := Nat.ofDigitChars 10 digits 0
  let n := if negative then -n else n
  if digits ≠ [] ∧ Int64.minValue.toInt ≤ n ∧ n ≤ Int64.maxValue.toInt then some n else none

/-- The index before a closing bracket, and the text after the bracket. -/
def splitIndex (cs : List Char) : Option (Int × List Char) :=
  let cs := cs.dropWhile isIndexBlank
  let (negative, cs) := match cs with
    | '-' :: r => (true, r)
    | _ => (false, cs)
  match index? negative (cs.takeWhile Char.isDigit),
      (cs.dropWhile Char.isDigit).dropWhile isIndexBlank with
  | some i, ']' :: r => some (i, r)
  | _, _ => none

/-- The steps after the first name, of which there are at most as many as characters. -/
def stepsUpTo : Nat → List Char → Option (List Step)
  | _, [] => some []
  | n + 1, '.' :: r =>
    let name := r.takeWhile isNameChar
    if name = [] then none
    else (stepsUpTo n (r.dropWhile isNameChar)).map (.key (String.ofList name) :: ·)
  | n + 1, '[' :: r => do
    let (i, r) ← splitIndex r
    (stepsUpTo n r).map (.index i :: ·)
  | _, _ => none

/-- The path that a key stands for, if it stands for one. -/
def path? (key : List Char) : Option (List Step) :=
  let name := key.takeWhile isNameChar
  if name = [] then none
  else (stepsUpTo key.length (key.dropWhile isNameChar)).map (.key (String.ofList name) :: ·)

/-- The path that a key stands for. -/
def path (key : String) : List Step :=
  (path? key.toList).getD [.key key]

end ProcTrace.Settings
