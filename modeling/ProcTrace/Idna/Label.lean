import ProcTrace.Idna.Punycode
import ProcTrace.Unicode.Direction
import ProcTrace.Unicode.Folded
import ProcTrace.Unicode.Joining
import ProcTrace.Unicode.Mark
import ProcTrace.Unicode.Normal

/-!
# Labels of domain names

When a label of an internationalised domain name is acceptable: it is in normal form, starts with no
mark, has only characters that names may have, joins letters only where a script calls for it, and
mixes writing directions only in the permitted ways.
-/

namespace ProcTrace.Idna

open Unicode

/-- Folds every character and brings the text to its composed normal form. -/
def fold (cs : List Char) : List Char :=
  composed (cs.flatMap fun c =>
    if c.toNat < 0x80 then [c.toLower] else (folded c).getD [c])

/-- The joiner that keeps letters apart. -/
def nonJoiner : Char := '\u200c'

/-- The joiner that brings letters together. -/
def joiner : Char := '\u200d'

/-- Characters that no name may have although they can be seen. -/
def excluded : Ranges :=
  [(0x2FF0, 0x2FFF), (0x31EF, 0x31EF), (0xFFFC, 0xFFFD)]

/-- A character that a folded name may have. -/
def isNameChar (c : Char) : Bool :=
  c.toNat < 0x80 || c = nonJoiner || c = joiner ||
    ((folded c).isNone && !invisible.mem c && !excluded.mem c)

/-! ### Joiners -/

/-- The combining class of the signs that silence a vowel. -/
def viramaClass : Nat := 9

/-- Whether a joiner may stand between the text before it, last character first, and the text
after it. -/
def joinerAllowed (c : Char) (before after : List Char) : Bool :=
  let afterVirama := match before with
    | b :: _ => combiningClass b = viramaClass
    | [] => false
  let joins (sides : Ranges) (cs : List Char) : Bool :=
    match cs.dropWhile joiningTransparent.mem with
    | d :: _ => joiningBoth.mem d || sides.mem d
    | [] => false
  afterVirama || (c = nonJoiner && joins joiningLeft before && joins joiningRight after)

/-- Every joiner of the text stands where it may, the text before it being given last character
first. -/
def joinersAllowed : List Char → List Char → Bool
  | _, [] => true
  | before, c :: after =>
    (!(c = nonJoiner || c = joiner) || joinerAllowed c before after) &&
      joinersAllowed (c :: before) after

/-! ### Directions -/

/-- A character that makes a name one of mixed direction. -/
def isRightToLeft (c : Char) : Bool :=
  Direction.rightToLeft.mem c || Direction.arabicLetter.mem c || Direction.arabicNumber.mem c

/-- A character that may stand in a label of either direction. -/
def isDirectionless (c : Char) : Bool :=
  [Direction.europeanNumber, Direction.europeanSeparator, Direction.europeanTerminator,
    Direction.commonSeparator, Direction.neutral, Direction.boundaryNeutral,
    Direction.nonspacingMark].any (·.mem c)

/-- A character that is written from left to right. -/
def isLeftToRight (c : Char) : Bool :=
  !isRightToLeft c && !isDirectionless c &&
    -- the separators of lines and spaces and the marks of embedding belong to no direction
    !(invisible.mem c)

/-- The label keeps to the rules for names of mixed direction. -/
def directionsAllowed (label : List Char) : Bool :=
  let body := (label.reverse.dropWhile Direction.nonspacingMark.mem).reverse
  match label, body.getLast? with
  | first :: _, some last =>
    if Direction.rightToLeft.mem first || Direction.arabicLetter.mem first then
      label.all (fun c => isRightToLeft c || isDirectionless c) &&
        (isRightToLeft last || Direction.europeanNumber.mem last) &&
        !(label.any Direction.europeanNumber.mem && label.any Direction.arabicNumber.mem)
    else
      isLeftToRight first && label.all (fun c => isLeftToRight c || isDirectionless c) &&
        (isLeftToRight last || Direction.europeanNumber.mem last)
  | [], _ => true
  | _, none => false

/-! ### Acceptable labels -/

/-- The label, with its characters outside ASCII, is acceptable for itself. -/
def isLabel (label : List Char) : Bool :=
  label.all (·.toNat < 0x80) ||
    (composed label == label && !(label.head?.any mark.mem) && label.all isNameChar &&
      joinersAllowed [] label)

/-- The start of a label that is written in letters, digits and hyphens. -/
def encodedMark : List Char := ['x', 'n', '-', '-']

/-- The label that a written label stands for. A label that starts with the mark of the encoded
ones has to be the encoding of a label outside ASCII. -/
def unwrap (label : List Char) : Option (List Char) :=
  if encodedMark.isPrefixOf label then
    match Punycode.decode (label.drop encodedMark.length) with
    | none => none
    | some cs =>
      if cs.any (0x80 ≤ ·.toNat) && cs.all (fun c => c.toLower = c) && isLabel cs then some cs
      else none
  else if isLabel label then some label
  else none

/-- The label as it is sent: in ASCII. -/
def wrap (label : List Char) : List Char :=
  if label.all (·.toNat < 0x80) then label else encodedMark ++ Punycode.encode label

/-- The form in ASCII of a domain name, if it is acceptable. -/
def toAscii (domain : List Char) : Option (List Char) := do
  let labels ← ((fold domain).splitOn '.').mapM unwrap
  if labels.any (·.any isRightToLeft) && !labels.all directionsAllowed then none
  else some (List.intercalate ['.'] (labels.map wrap))

end ProcTrace.Idna
