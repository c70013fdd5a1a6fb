import Mathlib.Data.Nat.Digits.Lemmas
import ProcTrace.Json.Record
import ProcTrace.Json.Writer

/-!
# What is written in JSON is read back

Each way of writing a value has a reader that gives the value back and leaves what follows it alone
(`Reader.Reads`). For texts this holds whatever follows. A number would go on with further digits, a
point or an exponent, so that here only the end, a comma or a closing bracket may follow
(`EndsValue`), which is all that ever follows a value in a text that is written.

Lists come from their elements (`list_reads`). A record comes from its members, which **fill** its
draft one after the other (`Record.Fills`, `Record.reader_reads`): for one kind of record there is
nothing more to prove than that the values of its members are read.
-/

namespace ProcTrace.Json

/-! ### Texts in quotes -/

/-- A hexadecimal digit stands for its number. -/
private theorem hexDigit?_digitChar {n : Nat} (h : n < 16) :
    hexDigit? (Nat.digitChar n) = some n := by
  interval_cases n <;> rfl

/-- Four hexadecimal digits stand for their number. -/
private theorem readHex_digits {a b c d : Nat} (ha : a < 16) (hb : b < 16) (hc : c < 16)
    (hd : d < 16) (s : List Char) :
    readHex (Nat.digitChar a :: Nat.digitChar b :: Nat.digitChar c :: Nat.digitChar d :: s) =
      .ok (((a * 16 + b) * 16 + c) * 16 + d, s) := by
  have hpos (x : Char) : 0 < x.utf8Size := x.utf8Size_pos
  have hwidth : ¬Text.utf8Width ((Nat.digitChar a :: Nat.digitChar b :: Nat.digitChar c ::
      Nat.digitChar d :: s).take 4) < 4 := by
    have := hpos (Nat.digitChar a)
    have := hpos (Nat.digitChar b)
    have := hpos (Nat.digitChar c)
    have := hpos (Nat.digitChar d)
    simp only [List.take_succ_cons, List.take_zero, Text.utf8Width]
    omega
  simp only [readHex, if_neg hwidth, hexDigit?_digitChar ha, hexDigit?_digitChar hb,
    hexDigit?_digitChar hc, hexDigit?_digitChar hd]

/-- A control character is read from its number. -/
private theorem readEscape_control {c : Char} (h : c.toNat < 0x20) (s : List Char) :
    readEscape ('u' :: '0' :: '0' :: controlDigits c.toNat ++ s) = .ok (c, s) := by
  have hhex : readHex ('0' :: '0' :: controlDigits c.toNat ++ s) = .ok (c.toNat, s) := by
    have := readHex_digits (a := 0) (b := 0) (c := c.toNat / 16) (d := c.toNat % 16)
      (by omega) (by omega) (by omega) (by omega) s
    rwa [show ((0 * 16 + 0) * 16 + c.toNat / 16) * 16 + c.toNat % 16 = c.toNat by omega] at this
  have htrail : isTrailSurrogate c.toNat = false := by
    simp only [isTrailSurrogate, Bool.and_eq_false_iff, decide_eq_false_iff_not]
    omega
  have hlead : isLeadSurrogate c.toNat = false := by
    simp only [isLeadSurrogate, Bool.and_eq_false_iff, decide_eq_false_iff_not]
    omega
  simp only [List.cons_append] at hhex ⊢
  simp only [readEscape, readUnicode, hhex, htrail, hlead, Char.ofNat_toNat, Bool.false_eq_true,
    if_false]

/-- An escape in a text stands for its character. -/
theorem readText_escape {s s' cs r : List Char} {c : Char} (hc : readEscape s = .ok (c, s'))
    (hs : readText s' = .ok (cs, r)) : readText ('\\' :: s) = .ok (c :: cs, r) := by
  rw [readText]
  split
  · next h => rw [hc] at h; cases h
  · next h =>
    rw [hc] at h
    cases h
    rw [hs]

/-- A character that is not escaped stands for itself. -/
theorem readText_plain {s cs r : List Char} {c : Char} (hquote : c ≠ '"') (hslash : c ≠ '\\')
    (hcontrol : ¬c.toNat < 0x20) (hs : readText s = .ok (cs, r)) :
    readText (c :: s) = .ok (c :: cs, r) := by
  rw [readText, if_neg hcontrol, hs]
  · rintro ⟨⟩; contradiction
  · rintro ⟨⟩; contradiction

/-- What is written for a character is read as this character. -/
private theorem readText_escapeChar (c : Char) {s cs r : List Char} (h : readText s = .ok (cs, r)) :
    readText (escapeChar c ++ s) = .ok (c :: cs, r) := by
  unfold escapeChar
  split_ifs with hquote hslash hback htab hline hform hreturn hcontrol
  · subst hquote; exact readText_escape rfl h
  · subst hslash; exact readText_escape rfl h
  · subst hback; exact readText_escape rfl h
  · subst htab; exact readText_escape rfl h
  · subst hline; exact readText_escape rfl h
  · subst hform; exact readText_escape rfl h
  · subst hreturn; exact readText_escape rfl h
  · exact readText_escape (readEscape_control hcontrol s) h
  · exact readText_plain hquote hslash hcontrol h

/-- **A text is read back from its escaped form.** -/
theorem readText_escaped (cs r : List Char) :
    readText (cs.flatMap escapeChar ++ '"' :: r) = .ok (cs, r) := by
  induction cs with
  | nil => rw [List.flatMap_nil, List.nil_append, readText]
  | cons c cs ih =>
    rw [List.flatMap_cons, List.append_assoc]
    exact readText_escapeChar c ih

/-! ### Numbers -/

/-- Digits that are read only make a number greater. -/
private theorem le_ofDigitChars (n : Nat) (cs : List Char) : n ≤ Nat.ofDigitChars 10 cs n := by
  rw [Nat.ofDigitChars_eq_ofDigitChars_zero]
  have := Nat.le_mul_of_pos_left n (Nat.pow_pos (n := cs.length) (show 0 < 10 by decide))
  omega

/-- All digits of a number within the limit are taken. -/
theorem takeDigits_of_le {limit n : Nat} {cs : List Char} (h : Nat.ofDigitChars 10 cs n ≤ limit) :
    takeDigits limit n cs = (Nat.ofDigitChars 10 cs n, []) := by
  induction cs generalizing n with
  | nil => rfl
  | cons c cs ih =>
    rw [Nat.ofDigitChars_cons, Nat.mul_comm 10] at h ⊢
    rw [takeDigits, if_pos (Nat.le_trans (le_ofDigitChars _ cs) h), ih h]

/-- The digits of a number start with a zero only if it is zero. -/
private theorem eq_zero_of_toDigits {n : Nat} {cs : List Char} (h : Nat.toDigits 10 n = '0' :: cs) :
    n = 0 := by
  -- The first digit of a number is that of a tenth of it.
  induction n using Nat.strongRecOn generalizing cs with
  | ind n ih =>
    rw [Nat.toDigits_eq_if (by decide)] at h
    split at h
    · rw [List.cons.injEq, Nat.digitChar_eq_zero] at h
      exact h.1
    · next hn =>
      obtain ⟨c, cs', hdigits⟩ :=
        List.exists_cons_of_ne_nil (Nat.toDigits_ne_nil (n := n / 10) (b := 10))
      rw [hdigits, List.cons_append, List.cons.injEq] at h
      have := ih (n / 10) (by omega) (hdigits.trans (by rw [h.1]))
      omega

/-- What may follow a value in a JSON text that is written here: the end, or a character that
separates values or closes a bracket. -/
def EndsValue (s : List Char) : Prop :=
  ∀ c ∈ s.head?, c = ',' ∨ c = ']' ∨ c = '}'

/-- A number that does not go on is an unsigned integer. -/
private theorem readAfterDigits_of_endsValue {r : List Char} (h : EndsValue r) (n : Nat) :
    readAfterDigits false n 0 r = .ok (.unsigned n, r) := by
  unfold readAfterDigits
  split
  · have := h '.' rfl
    simp at this
  · have := h 'e' rfl
    simp at this
  · have := h 'E' rfl
    simp at this
  · rfl

theorem EndsValue.isDigit {c : Char} {r : List Char} (h : EndsValue (c :: r)) :
    c.isDigit = false := by
  obtain rfl | rfl | rfl := h c rfl <;> rfl

/-- The digits of a number end where they have been written. -/
private theorem span_toDigits (n : Nat) {r : List Char} (h : EndsValue r) :
    (Nat.toDigits 10 n ++ r).takeWhile Char.isDigit = Nat.toDigits 10 n ∧
      (Nat.toDigits 10 n ++ r).dropWhile Char.isDigit = r := by
  have hdigits : ∀ c ∈ Nat.toDigits 10 n, c.isDigit = true := fun c hc =>
    Nat.isDigit_of_mem_toDigits (by decide) (by decide) hc
  rw [List.takeWhile_append_of_pos hdigits, List.dropWhile_append_of_pos hdigits]
  cases r with
  | nil => exact ⟨List.append_nil _, rfl⟩
  | cons c r => simp [h.isDigit]

/-- A zero is read back. -/
private theorem readUnsigned_zero {r : List Char} (hr : EndsValue r) :
    readUnsigned false ('0' :: r) = .ok (.unsigned 0, r) := by
  cases r with
  | nil => exact readAfterDigits_of_endsValue hr 0
  | cons c r =>
    -- Another digit after it would be refused.
    simp only [readUnsigned, hr.isDigit, Bool.false_eq_true, if_false]
    exact readAfterDigits_of_endsValue hr 0

/-- What is written for an unsigned integer starts with a digit. -/
private theorem exists_writeNat (n : Nat) : ∃ c cs, writeNat n = c :: cs ∧ c.isDigit = true := by
  obtain ⟨c, cs, hcs⟩ := List.exists_cons_of_ne_nil (Nat.toDigits_ne_nil (n := n) (b := 10))
  exact ⟨c, cs, hcs, Nat.isDigit_of_mem_toDigits (b := 10) (n := n) (by decide) (by decide)
    (by rw [hcs]; exact List.mem_cons_self)⟩

/-- **An unsigned integer of 64 bits is read back from its digits.** -/
theorem readNumber_writeNat {n : Nat} (hn : n ≤ wordMax) {r : List Char} (hr : EndsValue r) :
    readNumber (writeNat n ++ r) = .ok (.unsigned n, r) := by
  obtain ⟨htake, hdrop⟩ := span_toDigits n hr
  have hvalue : takeDigits wordMax 0 (Nat.toDigits 10 n) = (n, []) := by
    rw [takeDigits_of_le (by rwa [Nat.ofDigitChars_ten_toDigits]), Nat.ofDigitChars_ten_toDigits]
  obtain ⟨c, cs, hcs, hc⟩ := exists_writeNat n
  have hunsigned : readNumber (writeNat n ++ r) = readUnsigned false (writeNat n ++ r) := by
    rw [hcs, List.cons_append, readNumber]
    rintro _ ⟨⟩
    cases hc
  rw [hunsigned]
  rw [writeNat] at hcs ⊢
  by_cases hzero : c = '0'
  · -- A zero at the start is the whole number.
    subst hzero
    obtain rfl := eq_zero_of_toDigits hcs
    exact readUnsigned_zero hr
  · rw [hcs] at htake hdrop hvalue ⊢
    rw [List.cons_append] at htake hdrop ⊢
    rw [readUnsigned, if_pos hc, htake, hdrop, hvalue]
    · exact readAfterDigits_of_endsValue hr n
    · rintro ⟨⟩
      exact hzero rfl

/-! ### Readers of leaves -/

variable {α β : Type}

/-- The text starts as values do: with no space, and with nothing that ends a list. -/
def StartsValue (v : List Char) : Prop :=
  ∃ c s, v = c :: s ∧ isSpace c = false ∧ c ≠ ']'

/-- A reader **reads** a value from what was written for it, with any text behind it that may follow
a value. -/
structure Reader.Reads (x : Reader α) (v : List Char) (a : α) : Prop where
  starts : StartsValue v
  run : ∀ r, EndsValue r → x.run (v ++ r) = .ok (a, r)

theorem Reader.Reads.map {x : Reader α} {v : List Char} {a : α} (h : x.Reads v a) (f : α → β) :
    (x.map f).Reads v (f a) where
  starts := h.starts
  run r hr := by simp only [Reader.map, h.run r hr]

/-- No space is skipped where a value starts. -/
theorem skipSpace_of_starts {c : Char} {s : List Char} (h : isSpace c = false) :
    skipSpace (c :: s) = c :: s := by
  rw [skipSpace, List.dropWhile_cons_of_neg (by rw [h]; decide)]

private theorem isSpace_of_isDigit {c : Char} (h : c.isDigit = true) : isSpace c = false := by
  rw [Bool.eq_false_iff]
  intro hspace
  simp only [isSpace, Bool.or_eq_true, decide_eq_true_eq] at hspace
  obtain ((rfl | rfl) | rfl) | rfl := hspace <;> cases h

/-- The reader of unsigned integers reads what was written for one. -/
theorem natural_reads {max n : Nat} (wanted : String) (hmax : n ≤ max) (hword : n ≤ wordMax) :
    (natural max wanted).Reads (writeNat n) n := by
  obtain ⟨c, cs, hcs, hc⟩ := exists_writeNat n
  have hspace := isSpace_of_isDigit hc
  refine ⟨⟨c, cs, hcs, hspace, by rintro rfl; cases hc⟩, fun r hr => ?_⟩
  have hread := readNumber_writeNat hword hr
  rw [hcs, List.cons_append] at hread ⊢
  simp only [natural, skipSpace_of_starts hspace, hc, or_true, if_true, hread, hmax]

/-- A reader of texts reads what was written for a text that it does not refuse. -/
theorem textVia_reads {wanted : String} {check : List Char → Except String α} {cs : List Char}
    {a : α} (h : check cs = .ok a) : (textVia wanted check).Reads (writeText cs) a where
  starts := ⟨'"', _, rfl, rfl, by decide⟩
  run r _ := by
    have hskip : skipSpace (writeText cs ++ r) = '"' :: (cs.flatMap escapeChar ++ '"' :: r) := by
      simp [writeText, skipSpace_of_starts (c := '"') rfl]
    simp only [textVia, hskip, readText_escaped, h]

/-! ### Lists -/

/-- What is written after the first of several values. -/
def continued (vs : List (List Char)) : List Char :=
  vs.flatMap (',' :: ·)

private theorem continued_cons (v : List Char) (vs : List (List Char)) (s : List Char) :
    continued (v :: vs) ++ s = ',' :: (v ++ (continued vs ++ s)) := by
  simp only [continued, List.flatMap_cons, List.cons_append, List.append_assoc]

private theorem separated_cons (v : List Char) (vs : List (List Char)) :
    separated (v :: vs) = v ++ continued vs := by
  induction vs generalizing v with
  | nil => rw [separated, continued, List.flatMap_nil, List.append_nil]
  | cons w vs ih =>
    rw [separated, ih, continued, continued, List.flatMap_cons, List.cons_append]
    exact List.cons_ne_nil w vs

theorem endsValue_cons {c : Char} (h : c = ',' ∨ c = ']' ∨ c = '}') (r : List Char) :
    EndsValue (c :: r) := by
  rintro d ⟨⟩
  exact h

/-- What is written after the first of several values may follow it. -/
private theorem endsValue_continued (vs : List (List Char)) {s : List Char} (h : EndsValue s) :
    EndsValue (continued vs ++ s) := by
  cases vs with
  | nil => exact h
  | cons v vs => exact endsValue_cons (.inl rfl) _

/-- A list goes on where it starts with a value. -/
private theorem nextElement_first {v : List Char} (h : StartsValue v) (s : List Char) :
    nextElement true (v ++ s) = .ok (.more () (v ++ s)) := by
  obtain ⟨c, v, rfl, hc, hend⟩ := h
  rw [List.cons_append, nextElement, skipSpace_of_starts hc]
  split
  · next heq => cases heq
  · next heq => cases heq; exact absurd rfl hend
  · next heq => cases heq; rfl

private theorem nextElement_comma {v : List Char} (h : StartsValue v) (s : List Char) :
    nextElement false (',' :: (v ++ s)) = .ok (.more () (v ++ s)) := by
  obtain ⟨c, v, rfl, hc, hend⟩ := h
  have hcomma : skipSpace (',' :: (c :: v ++ s)) = ',' :: c :: (v ++ s) := rfl
  rw [nextElement, hcomma]
  simp only [Bool.false_eq_true, if_false, if_true, Char.reduceEq, imp_self, skipSpace_of_starts hc]
  split
  · next heq => cases heq
  · next heq => cases heq; exact absurd rfl hend
  · rfl

private theorem readElements_end (x : Reader α) (first : Bool) (r : List Char) :
    readElements x first (']' :: r) = .ok ([], ']' :: r) := by
  rw [readElements]
  rfl

/-- An element is read, and then those after it. -/
private theorem readElements_more {x : Reader α} {first : Bool} {s r r' r'' : List Char} {a : α}
    {as : List α} (hnext : nextElement first s = .ok (.more () r)) (hx : x.run r = .ok (a, r'))
    (hrest : readElements x false r' = .ok (as, r'')) :
    readElements x first s = .ok (a :: as, r'') := by
  rw [readElements]
  split
  · next h => rw [hnext] at h; cases h
  · next h => rw [hnext] at h; cases h
  · next h =>
    rw [hnext] at h
    cases h
    split
    · next h => rw [hx] at h; cases h
    · next h =>
      rw [hx] at h
      cases h
      rw [hrest]

/-- The elements after the first one are read. -/
private theorem readElements_continued {x : Reader α} {write : α → List Char}
    (h : ∀ a, x.Reads (write a) a) (as : List α) (r : List Char) :
    readElements x false (continued (as.map write) ++ ']' :: r) = .ok (as, ']' :: r) := by
  induction as with
  | nil => exact readElements_end x false r
  | cons a as ih =>
    rw [List.map_cons, continued_cons]
    exact readElements_more (nextElement_comma (h a).starts _)
      ((h a).run _ (endsValue_continued _ (endsValue_cons (.inr (.inl rfl)) r))) ih

/-- **The reader of lists reads what was written for one**, if its elements are read. -/
theorem list_reads {x : Reader α} {write : α → List Char} (h : ∀ a, x.Reads (write a) a)
    (as : List α) : (list x).Reads (writeList (as.map write)) as where
  starts := ⟨'[', _, rfl, rfl, by decide⟩
  run r _ := by
    have helements : readElements x true (separated (as.map write) ++ ']' :: r) =
        .ok (as, ']' :: r) := by
      cases as with
      | nil => exact readElements_end x true r
      | cons a as =>
        rw [List.map_cons, separated_cons, List.append_assoc]
        exact readElements_more (nextElement_first (h a).starts _)
          ((h a).run _ (endsValue_continued _ (endsValue_cons (.inr (.inl rfl)) r)))
          (readElements_continued h as r)
    have hskip : skipSpace (writeList (as.map write) ++ r) =
        '[' :: (separated (as.map write) ++ ']' :: r) := by
      simp [writeList, skipSpace_of_starts (c := '[') rfl]
    have hclose : closeList (']' :: r) = .ok r := rfl
    simp only [list, hskip, helements, hclose]

/-! ### Records -/

/-- A key that is written first in an object is read. -/
private theorem nextKey_first (k s : List Char) :
    nextKey true (writeText k ++ s) = .ok (.more k s) := by
  have hread := readText_escaped k s
  simp [nextKey, writeText, skipSpace_of_starts (c := '"') rfl, readKey, hread]

/-- A key that is written after a comma is read. -/
private theorem nextKey_comma (k s : List Char) :
    nextKey false (',' :: (writeText k ++ s)) = .ok (.more k s) := by
  have hread := readText_escaped k s
  simp [nextKey, writeText, skipSpace_of_starts (c := '"') rfl,
    skipSpace_of_starts (c := ',') rfl, readKey, hread]

private theorem readColon_colon (s : List Char) : readColon (':' :: s) = .ok s :=
  rfl

namespace Record

variable {σ : Type}

private theorem readMembers_end (members : List (Member σ)) (draft : σ) (first : Bool)
    (r : List Char) :
    readMembers members draft first ('}' :: r) = .ok (draft, '}' :: r) := by
  rw [readMembers]
  rfl

/-- A member is read into the draft, and then those after it. -/
private theorem readMembers_more {members : List (Member σ)} {draft : σ} {first : Bool}
    {s key r r₁ r₂ : List Char} {m : Member σ} {put : σ → σ}
    (hkey : nextKey first s = .ok (.more key r))
    (hm : members.find? (·.key.toList == key) = some m) (hgiven : m.given draft = false)
    (hcolon : readColon r = .ok r₁) (hvalue : m.value.run r₁ = .ok (put, r₂)) :
    readMembers members draft first s = readMembers members (put draft) false r₂ := by
  rw [readMembers]
  split
  · next h => rw [hkey] at h; cases h
  · next h => rw [hkey] at h; cases h
  · next h =>
    rw [hkey] at h
    cases h
    simp only [hm, hgiven, Bool.false_eq_true, if_false]
    split
    · next h => rw [hcolon] at h; cases h
    · next h =>
      rw [hcolon] at h
      cases h
      split
      · next h => rw [hvalue] at h; cases h
      · next h =>
        rw [hvalue] at h
        cases h
        rfl

/-- The written members **fill** a draft one after the other: each of them is one that the record
knows and the draft lacks, and its value is read. -/
inductive Fills (members : List (Member σ)) : List (String × List Char) → σ → σ → Prop where
  | nil (draft : σ) : Fills members [] draft draft
  | cons {key : String} {v : List Char} {ws : List (String × List Char)} {draft draft' : σ}
      {m : Member σ} {put : σ → σ} (known : members.find? (·.key.toList == key.toList) = some m)
      (lacking : m.given draft = false) (value : m.value.Reads v put)
      (rest : Fills members ws (put draft) draft') : Fills members ((key, v) :: ws) draft draft'

/-- A member as it is written. -/
def written (w : String × List Char) : List Char :=
  writeText w.1.toList ++ ':' :: w.2

private theorem written_append (key : String) (v s : List Char) :
    written (key, v) ++ s = writeText key.toList ++ ':' :: (v ++ s) := by
  simp only [written, List.append_assoc, List.cons_append]

/-- The members after the first one are read. -/
private theorem readMembers_continued {members : List (Member σ)} {ws : List (String × List Char)}
    {draft draft' : σ} (h : Fills members ws draft draft') (r : List Char) :
    readMembers members draft false (continued (ws.map written) ++ '}' :: r) =
      .ok (draft', '}' :: r) := by
  induction h with
  | nil draft => exact readMembers_end members draft false r
  | @cons key v ws draft draft' m put hknown hlacking hvalue hrest ih =>
    rw [List.map_cons, continued_cons, written_append]
    rw [readMembers_more (nextKey_comma key.toList _) hknown hlacking (readColon_colon _)
      (hvalue.run _ (endsValue_continued _ (endsValue_cons (.inr (.inr rfl)) r)))]
    exact ih

/-- The members of an object are read. -/
private theorem readMembers_separated {members : List (Member σ)} {ws : List (String × List Char)}
    {draft draft' : σ} (h : Fills members ws draft draft') (r : List Char) :
    readMembers members draft true (separated (ws.map written) ++ '}' :: r) =
      .ok (draft', '}' :: r) := by
  cases h with
  | nil => exact readMembers_end members draft true r
  | @cons key v ws _ _ m put hknown hlacking hvalue hrest =>
    rw [List.map_cons, separated_cons, List.append_assoc, written_append]
    rw [readMembers_more (nextKey_first key.toList _) hknown hlacking (readColon_colon _)
      (hvalue.run _ (endsValue_continued _ (endsValue_cons (.inr (.inr rfl)) r)))]
    exact readMembers_continued hrest r

/-- **The reader of a record reads what was written for one**, if the members fill its draft and the
draft becomes the value. -/
theorem reader_reads {x : Record σ α} {ws : List (String × List Char)} {draft : σ} {a : α}
    (hfills : Fills x.members ws x.draft draft) (hbuild : x.build draft = .ok a) :
    x.reader.Reads (writeObject ws) a where
  starts := ⟨'{', _, rfl, rfl, by decide⟩
  run r _ := by
    have hskip : skipSpace (writeObject ws ++ r) =
        '{' :: (separated (ws.map written) ++ '}' :: r) := by
      simp only [writeObject, List.cons_append, List.append_assoc, List.nil_append,
        skipSpace_of_starts (c := '{') rfl]
      rfl
    have hclose : closeObject ('}' :: r) = .ok r := rfl
    simp only [reader, read, hskip, readMembers_separated hfills, hbuild, hclose]

end Record

/-- **A text that was written for a value is parsed as it.** -/
theorem Reader.Reads.parse {x : Reader α} {v : List Char} {a : α} (h : x.Reads v a) :
    Json.parse x v = .ok a := by
  have hrun := h.run [] (by rintro c ⟨⟩)
  rw [List.append_nil] at hrun
  simp only [Json.parse, hrun]
  rfl

end ProcTrace.Json
