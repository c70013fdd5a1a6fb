import ProcTrace.Url.Percent

/-!
# Numeric addresses

Hosts that are given by number. An IPv4 address may be written with one to four parts, each decimal,
octal after a `0` or hexadecimal after `0x`, the last part filling what is left; it is shown as four
decimal numbers. An IPv6 address is eight pieces of sixteen bits, one run of zero pieces being left
out and the last two pieces possibly in the form of an IPv4 address.
-/

namespace ProcTrace.Url

/-! ### IPv4 -/

/-- The value of digits to a base, each of which has to be below it. -/
def digitsValue? (base : Nat) (cs : List Char) : Option Nat :=
  cs.foldlM (fun n c =>
    match hexValue? c with
    | some d => if d < base then some (n * base + d) else none
    | none => none) 0

/-- The number of a part of an IPv4 address. -/
def ipv4Part? (cs : List Char) : Option Nat :=
  match cs with
  | [] => none
  | '0' :: 'x' :: r => digitsValue? 16 r
  | '0' :: 'X' :: r => digitsValue? 16 r
  | '0' :: c :: r => digitsValue? 8 (c :: r)
  | cs => digitsValue? 10 cs

/-- The parts of a dotted name, a last empty one being dropped. -/
def dottedParts (cs : List Char) : List (List Char) :=
  let ps := cs.splitOn '.'
  if ps.getLast? = some [] then ps.dropLast else ps

/-- A name whose last part looks like a number has to be an IPv4 address. -/
def endsInNumber (cs : List Char) : Bool :=
  match (dottedParts cs).getLast? with
  | some p => (p ≠ [] && p.all Char.isDigit) || (ipv4Part? p).isSome
  | none => false

/-- The IPv4 address of a name: all parts but the last are single bytes. -/
def ipv4? (cs : List Char) : Option Nat := do
  let ps := dottedParts cs
  if 4 < ps.length then none
  else
    let ns ← ps.mapM ipv4Part?
    let last ← ns.getLast?
    let front := ns.dropLast
    if front.any (255 < ·) || Nat.pow 256 (4 - front.length) ≤ last then none
    else
      -- a byte at position `i` from the front weighs `256 ^ (3 - i)`
      some (front.zipIdx.foldl (fun sum (n, i) => sum + n * Nat.pow 256 (3 - i)) last)

/-- The four numbers of an IPv4 address. -/
def writeIpv4 (n : Nat) : List Char :=
  List.intercalate ['.']
    ([n / 16777216, n / 65536 % 256, n / 256 % 256, n % 256].map (Nat.toDigits 10))

/-! ### IPv6 -/

/-- A piece of an IPv6 address: one to four hexadecimal digits. -/
def ipv6Piece? (cs : List Char) : Option Nat :=
  if cs = [] ∨ 4 < cs.length then none else digitsValue? 16 cs

/-- A byte in decimal digits, without leading zeros. -/
def strictByte? (cs : List Char) : Option Nat :=
  match cs with
  | [] => none
  | '0' :: _ :: _ => none
  | cs => do
    let n ← digitsValue? 10 cs
    if n < 256 then some n else none

/-- The two pieces of an embedded IPv4 address. -/
def embeddedIpv4? (cs : List Char) : Option (List Nat) := do
  let ns ← (cs.splitOn '.').mapM strictByte?
  match ns with
  | [a, b, c, d] => some [a * 256 + b, c * 256 + d]
  | _ => none

/-- The pieces between colons, of which the last may be an embedded IPv4 address if it is the end of
the whole address. -/
def ipv6Pieces? (atEnd : Bool) (cs : List Char) : Option (List Nat) :=
  if cs = [] then some []
  else
    let ps := cs.splitOn ':'
    match ps.getLast? with
    | some p =>
      if atEnd && p.contains '.' then do
        let front ← ps.dropLast.mapM ipv6Piece?
        let back ← embeddedIpv4? p
        some (front ++ back)
      else ps.mapM ipv6Piece?
    | none => none

/-- The text before the first `::` and the text after it. -/
def splitAtGap : List Char → Option (List Char × List Char)
  | ':' :: ':' :: r => some ([], r)
  | c :: r => (splitAtGap r).map fun (a, b) => (c :: a, b)
  | [] => none

/-- The eight pieces of an IPv6 address. -/
def ipv6? (cs : List Char) : Option (List Nat) :=
  match splitAtGap cs with
  | none => do
    let ps ← ipv6Pieces? true cs
    if ps.length = 8 then some ps else none
  | some (a, b) => do
    let front ← ipv6Pieces? false a
    let back ← ipv6Pieces? true b
    if front.length + back.length < 8 then
      some (front ++ List.replicate (8 - front.length - back.length) 0 ++ back)
    else none

/-- The number of zeros at the start. -/
def leadingZeros (ps : List Nat) : Nat :=
  (ps.takeWhile (· = 0)).length

/-- The first longest run of at least two zero pieces: where it starts and how long it is. -/
def longestGap (ps : List Nat) : Option (Nat × Nat) :=
  let runs := (List.range ps.length).map fun i => (i, leadingZeros (ps.drop i))
  let best := runs.foldl (fun b r => if b.2 < r.2 then r else b) (0, 0)
  if 2 ≤ best.2 then some best else none

/-- The text of an IPv6 address, without brackets. -/
def writeIpv6 (ps : List Nat) : List Char :=
  let join (qs : List Nat) := List.intercalate [':'] (qs.map (Nat.toDigits 16))
  match longestGap ps with
  | none => join ps
  | some (i, n) => join (ps.take i) ++ [':', ':'] ++ join (ps.drop (i + n))

end ProcTrace.Url
