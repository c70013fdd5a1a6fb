/-!
# Double precision numbers

The numbers of the IEEE 754 format with 53 significant bits, as exact multiples of powers of two.
Arithmetic rounds the exact result to the nearest number of the format, a tie going to the even
significand, and is carried out on natural numbers throughout.
-/

namespace ProcTrace.Decimal

/-- A double precision number. `finite s m e` is `m · 2 ^ e`, negated when `s` holds; its
significand is kept below `2 ^ 53` and its exponent between `-1074` and `971`. -/
inductive Double where
  | finite (negative : Bool) (significand : Nat) (exponent : Int)
  | infinite (negative : Bool)
  | nan
  deriving DecidableEq, Repr

/-- The significands of 53 bits are the numbers below `2 ^ 53`. -/
def significandLimit : Nat := 9007199254740992

/-- The quotient rounded to the nearest natural number, a tie going to the even one. -/
def roundDiv (num den : Nat) : Nat :=
  let q := num / den
  let twice := 2 * (num % den)
  if twice < den then q
  else if den < twice then q + 1
  else q + q % 2

namespace Double

/-- The zero of the given sign. -/
def zero (negative : Bool) : Double :=
  .finite negative 0 0

def isZero : Double → Bool
  | .finite _ m _ => m == 0
  | _ => false

def isInfinite : Double → Bool
  | .infinite _ => true
  | _ => false

/-- The number of the format nearest to `num / den · 2 ^ e`. -/
def ofRatio (negative : Bool) (num den : Nat) (e : Int) : Double :=
  if num = 0 ∨ den = 0 then zero negative
  else
    -- the exponent that leaves 53 bits, or 54 where the estimate is one too low
    let guess : Int := (Nat.log2 num : Int) - (Nat.log2 den : Int) - 53
    let scaled (shift : Int) : Nat × Nat :=
      if 0 ≤ shift then (num, den * Nat.pow 2 shift.toNat)
      else (num * Nat.pow 2 (-shift).toNat, den)
    let wide := scaled guess
    let fits : Int := if wide.1 / wide.2 < significandLimit then guess else guess + 1
    let shift : Int := if fits + e < -1074 then -1074 - e else fits
    let parts := scaled shift
    let m := roundDiv parts.1 parts.2
    let (m, shift) := if m = significandLimit then (significandLimit / 2, shift + 1) else (m, shift)
    if 971 < shift + e then .infinite negative
    else if m = 0 then zero negative
    else .finite negative m (shift + e)

/-- The number nearest to a natural number. -/
def ofNat (negative : Bool) (n : Nat) : Double :=
  ofRatio negative n 1 0

/-- The number nearest to `10 ^ k`. -/
def powerOfTen (k : Nat) : Double :=
  ofNat false (Nat.pow 10 k)

/-- The rounded product with a number that is positive and finite. -/
def mul : Double → Double → Double
  | .finite s m e, .finite _ n f => ofRatio s (m * n) 1 (e + f)
  | x, _ => x

/-- The rounded quotient by a number that is positive and finite. -/
def div : Double → Double → Double
  | .finite s m e, .finite _ n f => ofRatio s m n (e - f)
  | x, _ => x

/-- The number nearest to `digits · 10 ^ scale`. Beyond four hundred places on either side of the
point the answer is known without computing the power. -/
def ofDecimal (negative : Bool) (digits : Nat) (scale : Int) : Double :=
  let places : Int := (Nat.toDigits 10 digits).length + scale
  if digits = 0 ∨ places < -400 then zero negative
  else if 400 < places then .infinite negative
  else if 0 ≤ scale then ofRatio negative (digits * Nat.pow 10 scale.toNat) 1 0
  else ofRatio negative digits (Nat.pow 10 (-scale).toNat) 0

end Double

end ProcTrace.Decimal
