/-!
# Bytes and characters

Texts that arrive from outside (bodies of replies, configuration files, the standard input) arrive
as bytes. `Utf8.pieces` reads a sequence of bytes as UTF-8 and yields one entry a character, and
one empty entry for every **ill-formed stretch**: a byte that starts no character, or the longest
start of a character that is not completed. Two readings rest on it: the strict one `Utf8.decode?`,
which refuses ill-formed bytes, and the lossy one `Utf8.decode`, which puts U+FFFD in their place.
-/

namespace ProcTrace.Text

/-- A sequence of bytes. -/
abbrev Bytes := List UInt8

/-- The number of bytes of a text in UTF-8. -/
def utf8Width : List Char → Nat
  | [] => 0
  | c :: cs => c.utf8Size + utf8Width cs

/-- The character that stands in for what cannot be read. -/
def replacement : Char := '\uFFFD'

namespace Utf8

/-- The bytes of a text. -/
def encode (cs : List Char) : Bytes :=
  cs.flatMap String.utf8EncodeChar

/-- A character that has been started and not yet completed: its bits so far, the number of
bytes still to come, and the bounds of the next of them. -/
structure Pending where
  bits : Nat
  missing : Nat
  low : UInt8 := 0x80
  high : UInt8 := 0xBF
  deriving DecidableEq

/-- What the first byte of a character says. -/
inductive Start where
  | whole (c : Char)
  | partly (p : Pending)
  | none
  deriving DecidableEq

/-- The reading of a byte at the start of a character. The bounds on the second byte exclude
overlong forms, surrogates and numbers above U+10FFFF. -/
def start (b : UInt8) : Start :=
  if b < 0x80 then .whole (Char.ofNat b.toNat)
  else if b < 0xC2 then .none
  else if b < 0xE0 then .partly { bits := b.toNat - 0xC0, missing := 1 }
  else if b = 0xE0 then .partly { bits := 0, missing := 2, low := 0xA0 }
  else if b = 0xED then .partly { bits := 0xD, missing := 2, high := 0x9F }
  else if b < 0xF0 then .partly { bits := b.toNat - 0xE0, missing := 2 }
  else if b = 0xF0 then .partly { bits := 0, missing := 3, low := 0x90 }
  else if b < 0xF4 then .partly { bits := b.toNat - 0xF0, missing := 3 }
  else if b = 0xF4 then .partly { bits := 4, missing := 3, high := 0x8F }
  else .none

/-- The entries read from the bytes that follow the pending character, if there is one. -/
def piecesAfter : Option Pending → Bytes → List (Option Char)
  | none, [] => []
  | some _, [] => [none]
  | none, b :: bs =>
    match start b with
    | .whole c => some c :: piecesAfter none bs
    | .partly p => piecesAfter (some p) bs
    | .none => none :: piecesAfter none bs
  | some p, b :: bs =>
    if p.low ≤ b ∧ b ≤ p.high then
      let bits := p.bits * 64 + (b.toNat - 0x80)
      if p.missing = 1 then some (Char.ofNat bits) :: piecesAfter none bs
      else piecesAfter (some { bits, missing := p.missing - 1 }) bs
    else
      none :: match start b with
        | .whole c => some c :: piecesAfter none bs
        | .partly p => piecesAfter (some p) bs
        | .none => none :: piecesAfter none bs

/-- One entry for every character of the bytes and an empty one for every ill-formed stretch. -/
def pieces (bs : Bytes) : List (Option Char) :=
  piecesAfter none bs

/-- The text of the bytes, if all of them are well-formed. -/
def decode? (bs : Bytes) : Option (List Char) :=
  (pieces bs).mapM id

/-- The text of the bytes, with U+FFFD for every ill-formed stretch. -/
def decode (bs : Bytes) : List Char :=
  (pieces bs).map (·.getD replacement)

/-- Where the strict reading succeeds the lossy one agrees with it. -/
theorem decode_eq_of_decode? {bs : Bytes} {cs : List Char} (h : decode? bs = some cs) :
    decode bs = cs := by
  unfold decode? at h
  unfold decode
  generalize pieces bs = ps at h
  induction ps generalizing cs with
  | nil => simp at h; simp [h]
  | cons p ps ih =>
    cases p with
    | none => simp at h
    | some c =>
      simp only [List.mapM_cons, id_eq, Option.pure_def, Option.bind_eq_bind,
        Option.bind_some, Option.bind_eq_some_iff, Option.some.injEq] at h
      obtain ⟨r, hr, rfl⟩ := h
      simp [ih hr]

end Utf8

end ProcTrace.Text
