import ProcTrace.Decimal.Double

/-!
# Shortest decimal texts

The text of a double precision number uses the **fewest digits that read back as that number**. The
decimals that round to a number form an interval around it, whose ends count when the significand
is even. On the grid of the power of ten above the number, then for one digit, two digits and so on,
the two neighbours of the number are tried; the first grid with a hit decides, and of two hits the
nearer one.

Where the point goes, and when an exponent is written, is a matter of the place where the number is
shown: a `Layout`.
-/

namespace ProcTrace.Decimal

/-- The digits of a decimal and the power of ten they are multiplied by. -/
structure Digits where
  digits : Nat
  scale : Int
  deriving DecidableEq, Repr

namespace Shortest

/-- The interval of the decimals that round to a positive number, over a common denominator. -/
structure Interval where
  low : Nat
  value : Nat
  high : Nat
  den : Nat
  closed : Bool

/-- The interval of `m · 2 ^ e`: half a unit of the last place to either side, but only a quarter
below a power of two, where the numbers lie closer together. -/
def interval (m : Nat) (e : Int) : Interval :=
  let below := if m = significandLimit / 2 ∧ -1074 < e then 1 else 2
  let up := Nat.pow 2 (e - 2).toNat
  { low := (4 * m - below) * up, value := 4 * m * up, high := (4 * m + 2) * up
    den := Nat.pow 2 (2 - e).toNat, closed := m % 2 = 0 }

/-- The interval holds `num / den`. -/
def Interval.holds (i : Interval) (num den : Nat) : Bool :=
  let l := i.low * den
  let h := i.high * den
  let x := num * i.den
  if i.closed then l ≤ x && x ≤ h else l < x && x < h

/-- The decimal of the grid with step `10 ^ scale` that reads back as the number, if there is
one: the nearer neighbour if both do, and the even one if they are equally near. -/
def onGrid (i : Interval) (scale : Int) : Option Digits :=
  let up := Nat.pow 10 scale.toNat
  let down := Nat.pow 10 (-scale).toNat
  -- the value in grid steps is `num / den`
  let num := i.value * down
  let den := i.den * up
  let below := num / den
  let hit (d : Nat) : Bool := i.holds (d * up) down
  let nearer := roundDiv num den
  let other := if nearer = below then below + 1 else below
  if hit nearer then some ⟨nearer, scale⟩
  else if hit other then some ⟨other, scale⟩
  else none

/-- The number of decimal digits before the point, or minus the number of zeros after it. -/
def magnitude (i : Interval) : Int :=
  let whole := i.value / i.den
  if 0 < whole then (Nat.toDigits 10 whole).length
  else
    -- the first power of ten that lifts the value to one or more
    let lifts := (List.range 400).find? fun k => i.den ≤ i.value * Nat.pow 10 (k + 1)
    Int.negOfNat (lifts.getD 400)

end Shortest

/-- The fewest digits that read back as `m · 2 ^ e`; seventeen always do. -/
def shortest (m : Nat) (e : Int) : Digits :=
  let i := Shortest.interval m e
  let places := Shortest.magnitude i
  let tries := (List.range 18).filterMap fun k => Shortest.onGrid i (places - Int.ofNat k)
  tries.head?.getD ⟨m, e⟩

/-- How the text of a number is laid out. -/
structure Layout where
  /-- The least number of places before the point for which an exponent is written, if one is
  written at all. -/
  exponentFrom : Option Nat
  /-- The greatest number of zeros after the point for which no exponent is written. -/
  zerosUpTo : Nat
  /-- A number without a fraction keeps a point and a zero. -/
  keepsPoint : Bool

/-- The text of `digits · 10 ^ scale` with a point and without an exponent. -/
def positional (keepsPoint : Bool) (d : Digits) : List Char :=
  let cs := Nat.toDigits 10 d.digits
  if 0 ≤ d.scale then
    cs ++ List.replicate d.scale.toNat '0' ++ if keepsPoint then ['.', '0'] else []
  else
    let places := (-d.scale).toNat
    if places < cs.length then
      cs.take (cs.length - places) ++ '.' :: cs.drop (cs.length - places)
    else
      '0' :: '.' :: List.replicate (places - cs.length) '0' ++ cs

/-- The text of `digits · 10 ^ scale` with one digit before the point and a signed exponent. -/
def scientific (d : Digits) : List Char :=
  let cs := Nat.toDigits 10 d.digits
  let exponent : Int := d.scale + cs.length - 1
  let sign := if exponent < 0 then '-' else '+'
  let mantissa := match cs with
    | [c] => [c]
    | c :: r => c :: '.' :: r
    | [] => []
  mantissa ++ 'e' :: sign :: Nat.toDigits 10 exponent.natAbs

/-- The digits laid out. -/
def Layout.write (l : Layout) (d : Digits) : List Char :=
  let places : Int := (Nat.toDigits 10 d.digits).length + d.scale
  match l.exponentFrom with
  | none => positional l.keepsPoint d
  | some n =>
    if (n : Int) ≤ places ∨ places < -(l.zerosUpTo : Int) then scientific d
    else positional l.keepsPoint d

/-- The text of a number: a zero keeps its sign, and what is not a finite number has a name. -/
def Layout.text (l : Layout) : Double → List Char
  | .nan => ['N', 'a', 'N']
  | .infinite negative => (if negative then ['-'] else []) ++ ['i', 'n', 'f']
  | .finite negative m e =>
    (if negative then ['-'] else []) ++
      if m = 0 then positional l.keepsPoint ⟨0, 0⟩ else l.write (shortest m e)

end ProcTrace.Decimal
