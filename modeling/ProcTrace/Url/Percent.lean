import ProcTrace.Text.Utf8

/-!
# Percent encoding

The parts of a URL are written in visible ASCII. Characters that a part must not hold literally are
written as their bytes, each as a percent sign and two hexadecimal digits; which characters those
are depends on the part.
-/

namespace ProcTrace.Url

open Text (Bytes)

/-- The hexadecimal digit, a capital if it is a letter. -/
def hexDigit (n : Nat) : Char :=
  if n < 10 then Char.ofNat ('0'.toNat + n) else Char.ofNat ('A'.toNat + (n - 10))

/-- A byte as a percent sign and two digits. -/
def percentByte (b : UInt8) : List Char :=
  ['%', hexDigit (b.toNat / 16), hexDigit (b.toNat % 16)]

/-- Controls and everything outside ASCII, which no part holds literally. -/
def isControl (c : Char) : Bool :=
  c.toNat < 0x20 || 0x7E < c.toNat

def escapedInFragment (c : Char) : Bool :=
  isControl c || [' ', '"', '<', '>', '`'].contains c

def escapedInPath (c : Char) : Bool :=
  escapedInFragment c || ['#', '?', '{', '}'].contains c

def escapedInUserInfo (c : Char) : Bool :=
  escapedInPath c || ['/', ':', ';', '=', '@', '[', '\\', ']', '^', '|'].contains c

def escapedInQuery (c : Char) : Bool :=
  isControl c || [' ', '"', '#', '<', '>'].contains c

/-- In the query of a special URL the apostrophe is escaped, too. -/
def escapedInSpecialQuery (c : Char) : Bool :=
  escapedInQuery c || c = '\''

/-- Writes the characters that a part escapes as their bytes. -/
def percentEncode (escaped : Char → Bool) (cs : List Char) : List Char :=
  cs.flatMap fun c =>
    if escaped c then (String.utf8EncodeChar c).flatMap percentByte else [c]

/-- A text without escaped characters is written as it is. -/
theorem percentEncode_of_plain {escaped : Char → Bool} {cs : List Char}
    (h : ∀ c ∈ cs, escaped c = false) : percentEncode escaped cs = cs := by
  induction cs with
  | nil => rfl
  | cons c r ih =>
    have hr := ih fun d hd => h d (by simp [hd])
    unfold percentEncode at hr ⊢
    rw [List.flatMap_cons, hr, h c (by simp)]
    rfl

theorem percentEncode_append (escaped : Char → Bool) (cs ds : List Char) :
    percentEncode escaped (cs ++ ds) = percentEncode escaped cs ++ percentEncode escaped ds := by
  simp [percentEncode]

/-- The value of a hexadecimal digit of either case. -/
def hexValue? (c : Char) : Option Nat :=
  if '0' ≤ c ∧ c ≤ '9' then some (c.toNat - '0'.toNat)
  else if 'a' ≤ c ∧ c ≤ 'f' then some (c.toNat - 'a'.toNat + 10)
  else if 'A' ≤ c ∧ c ≤ 'F' then some (c.toNat - 'A'.toNat + 10)
  else none

/-- The bytes of a text, an escape standing for the byte it names. A percent sign without two
digits after it stands for itself. -/
def percentDecode : List Char → Bytes
  | '%' :: a :: b :: r =>
    match hexValue? a, hexValue? b with
    | some x, some y => UInt8.ofNat (x * 16 + y) :: percentDecode r
    | _, _ => '%'.toNat.toUInt8 :: percentDecode (a :: b :: r)
  | c :: r => String.utf8EncodeChar c ++ percentDecode r
  | [] => []

end ProcTrace.Url
