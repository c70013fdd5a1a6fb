import Mathlib
import ProcTrace.Text.Utf8

/-!
# Texts that are sent are read

The bytes of a text are well-formed, and they are read as the text itself (`pieces_encode`). So both
readings of bytes agree on them: the strict one, and the one that replaces what is ill-formed.
-/

namespace ProcTrace.Text.Utf8

/-! ### The first byte of a character -/

private theorem start_one {n : Nat} (h : n < 0x80) :
    start (UInt8.ofNat n) = .whole (Char.ofNat n) := by
  have hall : ∀ n : Fin 0x80, start (UInt8.ofNat n) = .whole (Char.ofNat n) := by
    decide +kernel
  exact hall ⟨n, h⟩

private theorem start_two {n : Nat} (h : 0xC2 ≤ n) (h' : n < 0xE0) :
    start (UInt8.ofNat n) = .partly { bits := n - 0xC0, missing := 1 } := by
  have hall : ∀ n : Fin 0xE0, 0xC2 ≤ n.val →
      start (UInt8.ofNat n) = .partly { bits := n - 0xC0, missing := 1 } := by
    decide +kernel
  exact hall ⟨n, h'⟩ h

/-- The first of three bytes keeps the second one from spelling an overlong form or a surrogate. -/
private theorem start_three {n : Nat} (h : 0xE0 ≤ n) (h' : n < 0xF0) :
    start (UInt8.ofNat n) = .partly
      { bits := n - 0xE0, missing := 2, low := if n = 0xE0 then 0xA0 else 0x80
        high := if n = 0xED then 0x9F else 0xBF } := by
  have hall : ∀ n : Fin 0xF0, 0xE0 ≤ n.val → start (UInt8.ofNat n) = .partly
      { bits := n - 0xE0, missing := 2, low := if n.val = 0xE0 then 0xA0 else 0x80
        high := if n.val = 0xED then 0x9F else 0xBF } := by
    decide +kernel
  exact hall ⟨n, h'⟩ h

/-- The first of four bytes keeps the second one from spelling a number beyond the last one. -/
private theorem start_four {n : Nat} (h : 0xF0 ≤ n) (h' : n < 0xF5) :
    start (UInt8.ofNat n) = .partly
      { bits := n - 0xF0, missing := 3, low := if n = 0xF0 then 0x90 else 0x80
        high := if n = 0xF4 then 0x8F else 0xBF } := by
  have hall : ∀ n : Fin 0xF5, 0xF0 ≤ n.val → start (UInt8.ofNat n) = .partly
      { bits := n - 0xF0, missing := 3, low := if n.val = 0xF0 then 0x90 else 0x80
        high := if n.val = 0xF4 then 0x8F else 0xBF } := by
    decide +kernel
  exact hall ⟨n, h'⟩ h

/-! ### The bytes after it -/

/-- A byte after the first one adds six bits, if it is within the bounds. -/
private theorem piecesAfter_within (bits missing : Nat) {low high : UInt8} {m : Nat} (hm : m < 0x40)
    (hlow : low.toNat ≤ m + 0x80) (hhigh : m + 0x80 ≤ high.toNat) (bs : Bytes) :
    piecesAfter (some { bits, missing, low, high }) (UInt8.ofNat (m + 0x80) :: bs) =
      if missing = 1 then some (Char.ofNat (bits * 64 + m)) :: piecesAfter none bs
      else piecesAfter (some { bits := bits * 64 + m, missing := missing - 1 }) bs := by
  have hsize : m + 0x80 < UInt8.size := by
    change m + 0x80 < 0x100
    omega
  have hbyte : (UInt8.ofNat (m + 0x80)).toNat = m + 0x80 := UInt8.toNat_ofNat_of_lt' hsize
  rw [piecesAfter, hbyte, Nat.add_sub_cancel, if_pos]
  rw [UInt8.le_iff_toNat_le, UInt8.le_iff_toNat_le, hbyte]
  exact ⟨hlow, hhigh⟩

/-- There are no other bounds on the third byte and the fourth one. -/
private theorem piecesAfter_continued (bits missing : Nat) {m : Nat} (hm : m < 0x40) (bs : Bytes) :
    piecesAfter (some { bits, missing }) (UInt8.ofNat (m + 0x80) :: bs) =
      if missing = 1 then some (Char.ofNat (bits * 64 + m)) :: piecesAfter none bs
      else piecesAfter (some { bits := bits * 64 + m, missing := missing - 1 }) bs :=
  piecesAfter_within bits missing hm (Nat.le_add_left _ _) (by change m + 0x80 ≤ 0xBF; omega) bs

/-! ### The bytes of a character -/

/-- Each byte after the first one has six bits of the number. -/
private theorem mod_lt_sixBits (n : Nat) : n % 64 < 0x40 :=
  Nat.mod_lt n (by decide)

private theorem piecesAfter_two {v : Nat} (h : 0x80 ≤ v) (h' : v < 0x800) (bs : Bytes) :
    piecesAfter none (UInt8.ofNat (v / 64 % 32 + 0xC0) :: UInt8.ofNat (v % 64 + 0x80) :: bs) =
      some (Char.ofNat v) :: piecesAfter none bs := by
  have hv : (v / 64 % 32 + 0xC0 - 0xC0) * 64 + v % 64 = v := by omega
  rw [piecesAfter, start_two (by omega) (by omega)]
  dsimp only
  rw [piecesAfter_continued _ _ (mod_lt_sixBits v), if_pos rfl, hv]

private theorem piecesAfter_three {v : Nat} (h : 0x800 ≤ v) (h' : v < 0x10000)
    (hvalid : v < 0xD800 ∨ 0xDFFF < v) (bs : Bytes) :
    piecesAfter none (UInt8.ofNat (v / 4096 % 16 + 0xE0) :: UInt8.ofNat (v / 64 % 64 + 0x80) ::
        UInt8.ofNat (v % 64 + 0x80) :: bs) =
      some (Char.ofNat v) :: piecesAfter none bs := by
  have hv : ((v / 4096 % 16 + 0xE0 - 0xE0) * 64 + v / 64 % 64) * 64 + v % 64 = v := by omega
  rw [piecesAfter, start_three (by omega) (by omega)]
  dsimp only
  rw [piecesAfter_within _ _ (mod_lt_sixBits _), if_neg (by decide),
    piecesAfter_continued _ _ (mod_lt_sixBits v), if_pos rfl, hv]
  · split_ifs
    · change 0xA0 ≤ _
      omega
    · exact Nat.le_add_left _ _
  · split_ifs
    · change _ ≤ 0x9F
      omega
    · change _ ≤ 0xBF
      omega

private theorem piecesAfter_four {v : Nat} (h : 0x10000 ≤ v) (h' : v < 0x110000) (bs : Bytes) :
    piecesAfter none (UInt8.ofNat (v / 262144 % 8 + 0xF0) :: UInt8.ofNat (v / 4096 % 64 + 0x80) ::
        UInt8.ofNat (v / 64 % 64 + 0x80) :: UInt8.ofNat (v % 64 + 0x80) :: bs) =
      some (Char.ofNat v) :: piecesAfter none bs := by
  have hv : (((v / 262144 % 8 + 0xF0 - 0xF0) * 64 + v / 4096 % 64) * 64 + v / 64 % 64) * 64 +
      v % 64 = v := by omega
  rw [piecesAfter, start_four (by omega) (by omega)]
  dsimp only
  rw [piecesAfter_within _ _ (mod_lt_sixBits _), if_neg (by decide),
    piecesAfter_continued _ _ (mod_lt_sixBits _), if_neg (by decide),
    piecesAfter_continued _ _ (mod_lt_sixBits v), if_pos rfl, hv]
  · split_ifs
    · change 0x90 ≤ _
      omega
    · exact Nat.le_add_left _ _
  · split_ifs
    · change _ ≤ 0x8F
      omega
    · change _ ≤ 0xBF
      omega

/-- **A character that was encoded is read**, whatever follows it. -/
theorem piecesAfter_encode (c : Char) (bs : Bytes) :
    piecesAfter none (String.utf8EncodeChar c ++ bs) = some c :: piecesAfter none bs := by
  have hc : Char.ofNat c.val.toNat = c := Char.ofNat_toNat c
  have hvalid : c.val.toNat < 0xD800 ∨ 0xDFFF < c.val.toNat ∧ c.val.toNat < 0x110000 := c.valid
  unfold String.utf8EncodeChar
  generalize c.val.toNat = v at hc hvalid
  subst hc
  dsimp only
  split_ifs with h1 h2 h3
  · rw [List.singleton_append, piecesAfter, start_one (by omega)]
  · exact piecesAfter_two (by omega) (by omega) bs
  · exact piecesAfter_three (by omega) (by omega) (hvalid.imp_right And.left) bs
  · exact piecesAfter_four (by omega) (by omega) bs

/-! ### The bytes of a text -/

/-- **The bytes of a text are read as its characters.** -/
theorem pieces_encode (cs : List Char) : pieces (encode cs) = cs.map some := by
  induction cs with
  | nil => rfl
  | cons c cs ih =>
    rw [pieces, encode, List.flatMap_cons, piecesAfter_encode, List.map_cons]
    exact congrArg _ ih

/-- The strict reading accepts the bytes of every text. -/
theorem decode?_encode (cs : List Char) : decode? (encode cs) = some cs := by
  rw [decode?, pieces_encode]
  induction cs with
  | nil => rfl
  | cons c cs ih =>
    rw [List.map_cons, List.mapM_cons, ih]
    rfl

/-- So does the one that replaces what is ill-formed. -/
theorem decode_encode (cs : List Char) : decode (encode cs) = cs :=
  decode_eq_of_decode? (decode?_encode cs)

end ProcTrace.Text.Utf8
