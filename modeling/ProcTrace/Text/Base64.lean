import ProcTrace.Text.Utf8

/-!
# Base 64

Bytes as text of 64 characters: every three bytes become four characters, and what is missing at
the end is made up by equals signs.
-/

namespace ProcTrace.Text.Base64

/-- The characters for the numbers below 64. -/
def alphabet : List Char :=
  "ABCDEFGHIJKLMNOPQRSTUVWXYZabcdefghijklmnopqrstuvwxyz0123456789+/".toList

/-- The character for the lowest six bits of a number. -/
def digit (n : Nat) : Char :=
  (alphabet[n % 64]?).getD '='

/-- The text of some bytes. -/
def encode : Bytes → List Char
  | a :: b :: c :: r =>
    let n := a.toNat * 65536 + b.toNat * 256 + c.toNat
    digit (n / 262144) :: digit (n / 4096) :: digit (n / 64) :: digit n :: encode r
  | [a, b] =>
    let n := a.toNat * 1024 + b.toNat * 4
    [digit (n / 4096), digit (n / 64), digit n, '=']
  | [a] => [digit (a.toNat / 4), digit (a.toNat * 16), '=', '=']
  | [] => []

end ProcTrace.Text.Base64
