import Mathlib.Data.List.TakeWhile
import ProcTrace.Proofs.Json.Grammar
import ProcTrace.Proofs.Json.RoundTrip

/-!
# The tokens of JSON texts

Texts in quotes, numbers and literals are read and run over exactly as the grammar spells them. Of a
text in quotes there are two readings: `skipText` runs over whatever is spelled, `readText` wants
the parts to make characters. Of a number only one case is of interest: what `readNumber` takes for
an unsigned integer is a literal of digits alone, within 64 bits.
-/

namespace ProcTrace.Json

/-! ### Texts in quotes -/

private theorem readHex_eq_ok_iff {s r : List Char} {n : Nat} :
    readHex s = .ok (n, r) ↔ SpellsUnit s n r := by
  constructor
  · intro h
    unfold readHex at h
    split at h
    · cases h
    · split at h
      · split at h
        · next ha hb hc hd =>
          cases h
          exact .digits ha hb hc hd
        · cases h
      · cases h
  · rintro ⟨ha, hb, hc, hd⟩
    rename_i a b c d _ _ _ _
    have hwidth : ¬ Text.utf8Width ((a :: b :: c :: d :: r).take 4) < 4 := by
      have := a.utf8Size_pos
      have := b.utf8Size_pos
      have := c.utf8Size_pos
      have := d.utf8Size_pos
      simp only [List.take_succ_cons, List.take_zero, Text.utf8Width]
      omega
    simp only [readHex, if_neg hwidth, ha, hb, hc, hd]

theorem SpellsUnit.unique {s r r' : List Char} {n n' : Nat} (h : SpellsUnit s n r)
    (h' : SpellsUnit s n' r') : n = n' ∧ r = r' := by
  rw [← readHex_eq_ok_iff] at h h'
  rw [h] at h'
  cases h'
  exact ⟨rfl, rfl⟩

theorem SpellsPart.unique {s r r' : List Char} {p p' : Part} (h : SpellsPart s p r)
    (h' : SpellsPart s p' r') : p = p' ∧ r = r' := by
  cases h with
  | plain _ hslash =>
    cases h' with
    | plain => exact ⟨rfl, rfl⟩
    | short => exact absurd rfl hslash
    | unit => exact absurd rfl hslash
  | short hd =>
    cases h' with
    | plain _ hslash => exact absurd rfl hslash
    | short hd' => rw [hd] at hd'; cases hd'; exact ⟨rfl, rfl⟩
    | unit => cases hd
  | unit hn =>
    cases h' with
    | plain _ hslash => exact absurd rfl hslash
    | short hd => cases hd
    | unit hn' =>
      obtain ⟨rfl, rfl⟩ := hn.unique hn'
      exact ⟨rfl, rfl⟩

/-- No part of a text starts with the quote that ends it. -/
theorem SpellsPart.ne_quote {r t : List Char} {p : Part} : ¬ SpellsPart ('"' :: r) p t := by
  intro h
  cases h with
  | plain hquote => exact hquote rfl

theorem SpellsText.unique {s r r' : List Char} {ps ps' : List Part} (h : SpellsText s ps r)
    (h' : SpellsText s ps' r') : ps = ps' ∧ r = r' := by
  induction h generalizing ps' with
  | close =>
    cases h' with
    | close => exact ⟨rfl, rfl⟩
    | more hp => exact absurd hp SpellsPart.ne_quote
  | more hp _ ih =>
    cases h' with
    | close => exact absurd hp SpellsPart.ne_quote
    | more hp' hps' =>
      obtain ⟨rfl, rfl⟩ := hp.unique hp'
      obtain ⟨rfl, rfl⟩ := ih hps'
      exact ⟨rfl, rfl⟩

/-- The letters of short escapes are those that `skipText` runs over. -/
private theorem exists_lookup_shortEscapes {c : Char} :
    ['"', '\\', '/', 'b', 'f', 'n', 'r', 't'].contains c = true ↔
      ∃ d, shortEscapes.lookup c = some d := by
  rw [← Option.isSome_iff_exists, List.lookup_isSome_iff]
  simp [shortEscapes]

/-- A text in quotes is run over part by part. -/
theorem SpellsPart.skipText_eq {s t : List Char} {p : Part} (h : SpellsPart s p t) :
    skipText s = skipText t := by
  cases h with
  | plain hquote hslash hcontrol =>
    rw [skipText, if_neg hcontrol]
    all_goals
      intros
      contradiction
  | @short c d r hd =>
    have hu : c ≠ 'u' := by
      rintro rfl
      cases hd
    rw [skipText, if_pos (exists_lookup_shortEscapes.2 ⟨d, hd⟩)]
    exact hu
  | unit hn =>
    rw [skipText]
    split
    · next hread => rw [readHex_eq_ok_iff.2 hn] at hread; cases hread
    · next hread => rw [readHex_eq_ok_iff.2 hn] at hread; cases hread; rfl

/-- **Exactly the spelled texts are run over.** -/
theorem skipText_eq_ok_iff {s r : List Char} :
    skipText s = .ok r ↔ ∃ ps, SpellsText s ps r := by
  constructor
  · intro h
    fun_induction skipText s with
    | case1 | case3 | case4 | case7 | case8 => cases h
    | case2 => cases h; exact ⟨[], .close⟩
    | case5 s n t hread _ ih =>
      obtain ⟨ps, hps⟩ := ih h
      exact ⟨.unit n :: ps, .more (.unit (readHex_eq_ok_iff.1 hread)) hps⟩
    | case6 c t _ hc ih =>
      obtain ⟨ps, hps⟩ := ih h
      obtain ⟨d, hd⟩ := exists_lookup_shortEscapes.1 hc
      exact ⟨.char d :: ps, .more (.short hd) hps⟩
    | case9 c t hquote hend hunit hslash hcontrol ih =>
      obtain ⟨ps, hps⟩ := ih h
      have hplain : c ≠ '\\' := by
        intro hc
        cases t with
        | nil => exact hend hc rfl
        | cons d t => exact hslash d t hc rfl
      exact ⟨.char c :: ps, .more (.plain hquote hplain hcontrol) hps⟩
  · rintro ⟨ps, h⟩
    induction h with
    | close => rw [skipText]
    | more hp _ ih => rw [hp.skipText_eq, ih]

/-- The parts **make** a character in front of whatever the parts after them make. -/
def Makes (ps : List Part) (c : Char) : Prop :=
  ∀ qs, decode (ps ++ qs) = (decode qs).map (c :: ·)

private theorem makes_char (c : Char) : Makes [.char c] c :=
  fun _ => by rw [List.singleton_append, decode]

private theorem makes_unit {n : Nat} (htrail : ¬ isTrailSurrogate n) (hlead : ¬ isLeadSurrogate n) :
    Makes [.unit n] (Char.ofNat n) :=
  fun _ => by rw [List.singleton_append, decode.eq_def]; simp only [htrail, hlead]; rfl

private theorem makes_pair {n m : Nat} (hlead : isLeadSurrogate n) (htrail : ¬ isTrailSurrogate n)
    (hm : isTrailSurrogate m) : Makes [.unit n, .unit m] (joinSurrogates n m) :=
  fun _ => by simp [decode, hlead, htrail, hm]

/-- What an escape is read as is made by the parts that it spells. -/
private theorem exists_parts_of_readEscape {s r : List Char} {c : Char}
    (h : readEscape s = .ok (c, r)) :
    ∃ ps, Makes ps c ∧ ∀ {qs t}, SpellsText r qs t → SpellsText ('\\' :: s) (ps ++ qs) t := by
  have hshort {e d : Char} {r : List Char} (hd : shortEscapes.lookup e = some d) :
      ∃ ps, Makes ps d ∧
        ∀ {qs t}, SpellsText r qs t → SpellsText ('\\' :: e :: r) (ps ++ qs) t :=
    ⟨[.char d], makes_char d, fun hqs => .more (.short hd) hqs⟩
  unfold readEscape at h
  split at h
  case h_10 u =>
    unfold readUnicode at h
    split at h
    · cases h
    · next n t hn =>
      rw [readHex_eq_ok_iff] at hn
      split at h
      · cases h
      · next htrail =>
        split at h
        · next hlead =>
          -- Two surrogates have to follow each other.
          split at h
          · cases h
          · cases h
          · split at h
            · cases h
            · next hm =>
              rw [readHex_eq_ok_iff] at hm
              split at h
              · next htrail' =>
                rw [Except.ok.injEq, Prod.mk.injEq] at h
                obtain ⟨rfl, rfl⟩ := h
                exact ⟨_, makes_pair hlead htrail htrail',
                  fun hqs => .more (.unit hn) (.more (.unit hm) hqs)⟩
              · cases h
          · cases h
          · cases h
        · next hlead =>
          rw [Except.ok.injEq, Prod.mk.injEq] at h
          obtain ⟨rfl, rfl⟩ := h
          exact ⟨_, makes_unit htrail hlead, fun hqs => .more (.unit hn) hqs⟩
  case h_1 => cases h
  case h_11 => cases h
  all_goals
    cases h
    exact hshort rfl

private theorem readEscape_short {e d : Char} (hd : shortEscapes.lookup e = some d)
    (r : List Char) :
    readEscape (e :: r) = .ok (d, r) := by
  have he := exists_lookup_shortEscapes.2 ⟨d, hd⟩
  simp only [List.contains_iff_mem, List.mem_cons, List.not_mem_nil, or_false] at he
  obtain rfl | rfl | rfl | rfl | rfl | rfl | rfl | rfl := he
  all_goals
    cases hd
    rfl

private theorem readEscape_unit {n : Nat} {s r : List Char} (htrail : ¬ isTrailSurrogate n)
    (hlead : ¬ isLeadSurrogate n) (hn : SpellsUnit s n r) :
    readEscape ('u' :: s) = .ok (Char.ofNat n, r) := by
  simp only [readEscape, readUnicode, readHex_eq_ok_iff.2 hn, htrail, hlead, Bool.false_eq_true,
    if_false]

private theorem readEscape_pair {n m : Nat} {s t r : List Char} (htrail : ¬ isTrailSurrogate n)
    (hlead : isLeadSurrogate n) (hm : isTrailSurrogate m) (hn : SpellsUnit s n ('\\' :: 'u' :: t))
    (hm' : SpellsUnit t m r) : readEscape ('u' :: s) = .ok (joinSurrogates n m, r) := by
  simp only [readEscape, readUnicode, readHex_eq_ok_iff.2 hn, htrail, hlead, Bool.false_eq_true,
    if_false, if_true, readHex_eq_ok_iff.2 hm', hm]

/-- **Exactly the spelled texts whose parts make characters are read**, as these characters. -/
theorem readText_eq_ok_iff {s cs r : List Char} :
    readText s = .ok (cs, r) ↔ ∃ ps, SpellsText s ps r ∧ decode ps = some cs := by
  constructor
  · intro h
    fun_induction readText s generalizing cs r with
    | case1 | case3 | case4 | case6 | case7 => cases h
    | case2 => cases h; exact ⟨[], .close, rfl⟩
    | case5 s c t hescape _ ds u hread ih =>
      cases h
      obtain ⟨ps, hmakes, hspells⟩ := exists_parts_of_readEscape hescape
      obtain ⟨qs, hqs, hdecode⟩ := ih hread
      exact ⟨ps ++ qs, hspells hqs, by rw [hmakes, hdecode]; rfl⟩
    | case8 c t hquote hslash hcontrol ds u hread ih =>
      cases h
      obtain ⟨qs, hqs, hdecode⟩ := ih hread
      exact ⟨.char c :: qs, .more (.plain hquote hslash hcontrol) hqs, by rw [decode, hdecode]; rfl⟩
  · rintro ⟨ps, hps, hdecode⟩
    fun_induction decode ps generalizing s cs with
    | case1 =>
      cases hps
      cases hdecode
      rw [readText]
    | case2 c ps ih =>
      obtain ⟨cs, hcs, rfl⟩ := Option.map_eq_some_iff.1 hdecode
      cases hps with
      | more hp hps =>
        cases hp with
        | plain hquote hslash hcontrol => exact readText_plain hquote hslash hcontrol (ih hps hcs)
        | short hd => exact readText_escape (readEscape_short hd _) (ih hps hcs)
    | case3 | case5 | case6 => cases hdecode
    | case4 n htrail hlead m ps hm ih =>
      obtain ⟨cs, hcs, rfl⟩ := Option.map_eq_some_iff.1 hdecode
      cases hps with
      | more hn hps =>
        cases hps with
        | more hm' hps =>
          cases hn with
          | unit hn =>
            cases hm' with
            | unit hm' =>
              exact readText_escape (readEscape_pair htrail hlead hm hn hm') (ih hps hcs)
    | case7 n ps htrail hlead ih =>
      obtain ⟨cs, hcs, rfl⟩ := Option.map_eq_some_iff.1 hdecode
      cases hps with
      | more hn hps =>
        cases hn with
        | unit hn => exact readText_escape (readEscape_unit htrail hlead hn) (ih hps hcs)

/-! ### Numbers -/

theorem spellsDigits_cons_iff {c : Char} {s r : List Char} :
    SpellsDigits (c :: s) r ↔ c.isDigit = true ∧ r = s.dropWhile Char.isDigit := by
  constructor
  · rintro ⟨hc⟩
    exact ⟨hc, rfl⟩
  · rintro ⟨hc, rfl⟩
    exact .digits hc s

theorem not_spellsDigits_nil {r : List Char} : ¬ SpellsDigits [] r := by
  rintro ⟨⟩

/-- The digits of an exponent are run over. -/
private theorem skipExponent_sign_eq_ok_iff {sign s r : List Char}
    (hsign : sign = ['+'] ∨ sign = ['-'] ∨ sign = [] ∧ s.head? ≠ some '+' ∧ s.head? ≠ some '-') :
    skipExponent (sign ++ s) = .ok r ↔ SpellsDigits s r := by
  have hskip : skipExponent (sign ++ s) = skipExponent ('+' :: s) := by
    obtain rfl | rfl | ⟨rfl, hplus, hminus⟩ := hsign
    · rfl
    · rfl
    · rw [List.nil_append, skipExponent.eq_def]
      split
      · exact absurd rfl hplus
      · exact absurd rfl hminus
      · rfl
  rw [hskip]
  cases s with
  | nil => simp [skipExponent, not_spellsDigits_nil]
  | cons c t =>
    by_cases hc : c.isDigit = true
    · simp [skipExponent, spellsDigits_cons_iff, hc, eq_comm]
    · simp [skipExponent, spellsDigits_cons_iff, hc]

/-- An exponent is run over with its sign. -/
private theorem skipExponent_eq_ok_iff {s r : List Char} :
    skipExponent s = .ok r ↔
      ∃ sign t, (sign = [] ∨ sign = ['+'] ∨ sign = ['-']) ∧ s = sign ++ t ∧ SpellsDigits t r := by
  constructor
  · intro h
    by_cases hplus : s.head? = some '+'
    · obtain ⟨t, rfl⟩ := List.head?_eq_some_iff.1 hplus
      exact ⟨['+'], t, .inr (.inl rfl), rfl, (skipExponent_sign_eq_ok_iff (.inl rfl)).1 h⟩
    · by_cases hminus : s.head? = some '-'
      · obtain ⟨t, rfl⟩ := List.head?_eq_some_iff.1 hminus
        exact ⟨['-'], t, .inr (.inr rfl), rfl, (skipExponent_sign_eq_ok_iff (.inr (.inl rfl))).1 h⟩
      · exact ⟨[], s, .inl rfl, rfl,
          (skipExponent_sign_eq_ok_iff (.inr (.inr ⟨rfl, hplus, hminus⟩))).1 h⟩
  · rintro ⟨sign, t, hsign, rfl, ht⟩
    refine (skipExponent_sign_eq_ok_iff ?_).2 ht
    obtain rfl | hsign := hsign
    · -- What starts with a digit has no sign.
      obtain ⟨hc, u⟩ := ht
      refine .inr (.inr ⟨rfl, ?_, ?_⟩) <;> rintro ⟨⟩ <;> cases hc
    · exact hsign.elim .inl fun h => .inr (.inl h)

/-- An exponent is run over, if there is one. -/
private theorem exponent_eq_ok_iff {s r : List Char} :
    (match s with
      | 'e' :: t => skipExponent t
      | 'E' :: t => skipExponent t
      | t => .ok t) = .ok r ↔ SpellsExponent s r := by
  constructor
  · intro h
    split at h
    · obtain ⟨sign, t, hsign, rfl, ht⟩ := skipExponent_eq_ok_iff.1 h
      exact .present (.inl rfl) hsign ht
    · obtain ⟨sign, t, hsign, rfl, ht⟩ := skipExponent_eq_ok_iff.1 h
      exact .present (.inr rfl) hsign ht
    · next hlower hupper =>
      cases h
      refine .absent (fun he => ?_) (fun he => ?_)
      · obtain ⟨t, ht⟩ := List.head?_eq_some_iff.1 he
        exact hlower t ht
      · obtain ⟨t, ht⟩ := List.head?_eq_some_iff.1 he
        exact hupper t ht
  · intro h
    cases h with
    | absent hlower hupper =>
      split
      · exact absurd rfl hlower
      · exact absurd rfl hupper
      · rfl
    | present hmark hsign ht =>
      have hskip := skipExponent_eq_ok_iff.2 ⟨_, _, hsign, rfl, ht⟩
      obtain rfl | rfl := hmark
      · exact hskip
      · exact hskip

/-- What may follow the digits of a number before its point is run over. -/
private theorem skipAfterDigits_eq_ok_iff {s r : List Char} :
    skipAfterDigits s = .ok r ↔ ∃ u, SpellsFraction s u ∧ SpellsExponent u r := by
  by_cases hpoint : s.head? = some '.'
  · obtain ⟨t, rfl⟩ := List.head?_eq_some_iff.1 hpoint
    have hfraction {u : List Char} : SpellsFraction ('.' :: t) u ↔ SpellsDigits t u := by
      constructor
      · intro h
        cases h with
        | absent h => exact absurd rfl h
        | present h => exact h
      · exact .present
    simp only [hfraction]
    cases t with
    | nil => simp [skipAfterDigits, not_spellsDigits_nil]
    | cons c t =>
      simp only [spellsDigits_cons_iff, skipAfterDigits, and_assoc, exists_and_left,
        exists_eq_left]
      by_cases hc : c.isDigit = true
      · rw [if_pos hc]
        exact exponent_eq_ok_iff.trans (and_iff_right hc).symm
      · simp [hc]
  · have hfraction {u : List Char} : SpellsFraction s u ↔ u = s := by
      constructor
      · intro h
        cases h with
        | absent => rfl
        | present => exact absurd rfl hpoint
      · rintro rfl
        exact .absent hpoint
    simp only [hfraction, exists_eq_left, ← exponent_eq_ok_iff]
    rw [skipAfterDigits.eq_def]
    split
    · exact absurd rfl hpoint
    · rfl
    · rfl
    · next hlower hupper =>
      split
      · exact absurd rfl (hlower _)
      · exact absurd rfl (hupper _)
      · rfl

/-- **Exactly the spelled numbers are run over.** -/
theorem skipNumber_eq_ok_iff {s r : List Char} : skipNumber s = .ok r ↔ SpellsUnsigned s r := by
  have hunsigned : SpellsUnsigned s r ↔ ∃ t, SpellsInteger s t ∧ skipAfterDigits t = .ok r := by
    simp only [skipAfterDigits_eq_ok_iff]
    constructor
    · rintro ⟨hi, hf, he⟩
      exact ⟨_, hi, _, hf, he⟩
    · rintro ⟨t, hi, u, hf, he⟩
      exact ⟨hi, hf, he⟩
  rw [hunsigned]
  constructor
  · intro h
    unfold skipNumber at h
    split at h
    · cases h
    · split at h
      · next c t =>
        split at h
        · cases h
        · next hc => exact ⟨_, .zero (by rintro _ ⟨⟩; exact hc), h⟩
      · cases h
        exact ⟨_, .zero (by rintro _ ⟨⟩), rfl⟩
    · next c t hzero =>
      split at h
      · next hc => exact ⟨_, .digits (.digits hc t) (by rintro ⟨⟩; exact hzero rfl), h⟩
      · cases h
  · rintro ⟨t, hi, ht⟩
    cases hi with
    | zero hend =>
      cases t with
      | nil => exact ht
      | cons c t => simpa [skipNumber, hend c rfl] using ht
    | digits hdigits hzero =>
      obtain ⟨hc, u⟩ := hdigits
      rw [skipNumber.eq_def]
      split
      · next heq => cases heq
      · next heq => cases heq; exact absurd rfl hzero
      · next heq =>
        cases heq
        rw [if_pos hc]
        exact ht

/-- No number starts with its sign twice. -/
theorem not_spellsUnsigned_minus {s r : List Char} : ¬ SpellsUnsigned ('-' :: s) r := by
  rintro ⟨hi, -, -⟩
  cases hi with
  | digits h => exact absurd (spellsDigits_cons_iff.1 h).1 (by decide)

/-! ### Unsigned integers -/

private theorem readScaled_ne_unsigned {negative : Bool} {digits n : Nat} {e : Int}
    {s r : List Char} :
    readScaled negative digits e s ≠ .ok (.unsigned n, r) := by
  unfold readScaled
  simp only [ne_eq]
  split <;> simp

private theorem readExponent_ne_unsigned {negative : Bool} {digits n : Nat} {shift : Int}
    {s r : List Char} : readExponent negative digits shift s ≠ .ok (.unsigned n, r) := by
  have hdigits (down : Bool) (t : List Char) :
      readExponentDigits negative digits shift down t ≠ .ok (.unsigned n, r) := by
    unfold readExponentDigits
    split
    · simp
    · split
      · simp only [ne_eq]
        split
        · exact readScaled_ne_unsigned
        · split <;> simp
      · simp
  unfold readExponent
  split
  · exact hdigits false _
  · exact hdigits true _
  · exact hdigits false _

private theorem readFraction_ne_unsigned {negative : Bool} {digits n : Nat} {shift : Int}
    {s r : List Char} : readFraction negative digits shift s ≠ .ok (.unsigned n, r) := by
  unfold readFraction
  simp only [ne_eq]
  split
  · simp
  · simp
  · split
    · exact readExponent_ne_unsigned
    · exact readExponent_ne_unsigned
    · exact readScaled_ne_unsigned

/-- A number that ends here has neither a fraction nor an exponent. -/
def EndsNumber (s : List Char) : Prop :=
  ∀ c ∈ s.head?, c ≠ '.' ∧ c ≠ 'e' ∧ c ≠ 'E'

private theorem readAfterDigits_eq_unsigned_iff {negative : Bool} {digits beyond n : Nat}
    {s r : List Char} :
    readAfterDigits negative digits beyond s = .ok (.unsigned n, r) ↔
      negative = false ∧ beyond = 0 ∧ n = digits ∧ r = s ∧ EndsNumber s := by
  unfold readAfterDigits
  split
  · simp [EndsNumber, readFraction_ne_unsigned]
  · simp [EndsNumber, readExponent_ne_unsigned]
  · simp [EndsNumber, readExponent_ne_unsigned]
  · next hpoint hlower hupper =>
    have hend : EndsNumber s := by
      intro c hc
      obtain ⟨t, rfl⟩ := List.head?_eq_some_iff.1 hc
      exact ⟨fun h => hpoint t (h ▸ rfl), fun h => hlower t (h ▸ rfl), fun h => hupper t (h ▸ rfl)⟩
    split
    · next hbeyond => simp [readScaled_ne_unsigned, hbeyond]
    · next hbeyond =>
      rw [not_not] at hbeyond
      split
      · next hnegative =>
        rw [Bool.not_eq_true'] at hnegative
        rw [Except.ok.injEq, Prod.mk.injEq, Number.unsigned.injEq]
        exact ⟨fun ⟨h, h'⟩ => ⟨hnegative, hbeyond, h.symm, h'.symm, hend⟩,
          fun ⟨_, _, h, h', _⟩ => ⟨h.symm, h'.symm⟩⟩
      · next hnegative =>
        rw [Bool.not_eq_true', Bool.not_eq_false] at hnegative
        split <;> simp [hnegative]

private theorem takeDigits_eq_nil_iff {limit n m : Nat} {cs : List Char} (hn : n ≤ limit) :
    takeDigits limit n cs = (m, []) ↔ m = Nat.ofDigitChars 10 cs n ∧ m ≤ limit := by
  constructor
  · intro h
    induction cs generalizing n with
    | nil =>
      cases h
      exact ⟨rfl, hn⟩
    | cons c cs ih =>
      rw [takeDigits] at h
      split at h
      · next hle =>
        rw [Nat.ofDigitChars_cons, Nat.mul_comm]
        exact ih hle h
      · cases h
  · rintro ⟨rfl, hle⟩
    exact takeDigits_of_le hle

theorem SpellsInteger.eq_dropWhile {s r : List Char} (h : SpellsInteger s r) :
    r = s.dropWhile Char.isDigit := by
  cases h with
  | zero hend =>
    rw [List.dropWhile_cons_of_pos (by decide)]
    cases r with
    | nil => rfl
    | cons c r => rw [List.dropWhile_cons_of_neg (hend c rfl)]
  | digits h =>
    obtain ⟨hc, t⟩ := h
    rw [List.dropWhile_cons_of_pos hc]

/-- The digits before the point are what the integer leaves behind. -/
theorem SpellsInteger.takeWhile_eq {l r : List Char} (h : SpellsInteger (l ++ r) r) :
    (l ++ r).takeWhile Char.isDigit = l := by
  have happend := List.takeWhile_append_dropWhile (p := Char.isDigit) (l := l ++ r)
  rw [← h.eq_dropWhile] at happend
  exact List.append_cancel_right happend

/-- After the digits of an integer, the number goes on with what they amount to. -/
theorem SpellsInteger.readUnsigned_eq {s t : List Char} (h : SpellsInteger s t) (negative : Bool) :
    readUnsigned negative s =
      readAfterDigits negative (takeDigits wordMax 0 (s.takeWhile Char.isDigit)).1
        (takeDigits wordMax 0 (s.takeWhile Char.isDigit)).2.length t := by
  cases h with
  | zero hend =>
    have hdigits := SpellsInteger.takeWhile_eq (l := ['0']) (.zero hend)
    rw [List.singleton_append] at hdigits
    rw [hdigits]
    cases t with
    | nil => rfl
    | cons c t => exact if_neg (hend c rfl)
  | digits hdigits hzero =>
    obtain ⟨hc, u⟩ := hdigits
    rw [readUnsigned.eq_def]
    split
    · next heq => cases heq
    · next heq => cases heq; exact absurd rfl hzero
    · next heq =>
      cases heq
      rw [if_pos hc, List.dropWhile_cons_of_pos hc]

private theorem exists_integer_of_readUnsigned {negative : Bool} {s : List Char}
    {x : Number × List Char} (h : readUnsigned negative s = .ok x) : ∃ t, SpellsInteger s t := by
  unfold readUnsigned at h
  split at h
  · cases h
  · split at h
    · next c t =>
      split at h
      · cases h
      · next hc => exact ⟨_, .zero (by rintro _ ⟨⟩; exact hc)⟩
    · exact ⟨_, .zero (by rintro _ ⟨⟩)⟩
  · next c t hzero =>
    split at h
    · next hc => exact ⟨_, .digits (.digits hc t) (by rintro ⟨⟩; exact hzero rfl)⟩
    · cases h

private theorem readUnsigned_eq_unsigned_iff {negative : Bool} {s r : List Char} {n : Nat} :
    readUnsigned negative s = .ok (.unsigned n, r) ↔
      negative = false ∧ SpellsInteger s r ∧ EndsNumber r ∧
        n = Nat.ofDigitChars 10 (s.takeWhile Char.isDigit) 0 ∧ n ≤ wordMax := by
  have htake : takeDigits wordMax 0 (s.takeWhile Char.isDigit) = (n, []) ↔
      n = Nat.ofDigitChars 10 (s.takeWhile Char.isDigit) 0 ∧ n ≤ wordMax :=
    takeDigits_eq_nil_iff (Nat.zero_le wordMax)
  constructor
  · intro h
    obtain ⟨t, hs⟩ := exists_integer_of_readUnsigned h
    rw [hs.readUnsigned_eq, readAfterDigits_eq_unsigned_iff, List.length_eq_zero_iff] at h
    obtain ⟨hneg, hbeyond, hn, rfl, hend⟩ := h
    exact ⟨hneg, hs, hend, htake.1 (Prod.ext hn.symm hbeyond)⟩
  · rintro ⟨hneg, hs, hend, hn⟩
    rw [hs.readUnsigned_eq, htake.2 hn, readAfterDigits_eq_unsigned_iff]
    exact ⟨hneg, rfl, rfl, rfl, hend⟩

theorem SpellsDigits.suffix {s r : List Char} (h : SpellsDigits s r) : r <:+ s := by
  obtain ⟨-, s⟩ := h
  exact (List.dropWhile_suffix _).trans (List.suffix_cons _ s)

theorem SpellsInteger.suffix {s r : List Char} (h : SpellsInteger s r) : r <:+ s :=
  h.eq_dropWhile ▸ List.dropWhile_suffix _

theorem SpellsFraction.suffix {s r : List Char} (h : SpellsFraction s r) : r <:+ s := by
  cases h with
  | absent => exact List.suffix_rfl
  | present h => exact h.suffix.trans (List.suffix_cons _ _)

theorem SpellsExponent.suffix {s r : List Char} (h : SpellsExponent s r) : r <:+ s := by
  cases h with
  | absent => exact List.suffix_rfl
  | present _ _ h => exact h.suffix.trans ((List.suffix_append _ _).trans (List.suffix_cons _ _))

theorem SpellsUnsigned.suffix {s r : List Char} (h : SpellsUnsigned s r) : r <:+ s := by
  obtain ⟨hi, hf, he⟩ := h
  exact he.suffix.trans (hf.suffix.trans hi.suffix)

theorem SpellsNumber.suffix {s r : List Char} (h : SpellsNumber s r) : r <:+ s := by
  cases h with
  | unsigned h => exact h.suffix
  | negative h => exact h.suffix.trans (List.suffix_cons _ _)

/-- A number that is made of digits alone is an integer. -/
private theorem spellsUnsigned_digits_iff {l r : List Char} (hl : ∀ c ∈ l, c.isDigit = true) :
    SpellsUnsigned (l ++ r) r ↔ SpellsInteger (l ++ r) r ∧ EndsNumber r := by
  constructor
  · rintro ⟨hi, hf, he⟩
    -- The digits are all gone where the integer ends, so that nothing is left for the other parts.
    have hlength := hi.eq_dropWhile ▸ List.dropWhile_append_of_pos hl ▸
      (List.dropWhile_sublist Char.isDigit (l := r)).length_le
    have hr := he.suffix.length_le
    cases hf with
    | present hdigits =>
      have := hdigits.suffix.length_le
      simp only [List.length_cons] at hlength
      omega
    | absent hpoint =>
      cases he with
      | present _ _ hdigits =>
        have := hdigits.suffix.length_le
        simp only [List.length_cons, List.length_append] at hlength
        omega
      | absent hlower hupper =>
        refine ⟨hi, fun c hc => ⟨?_, ?_, ?_⟩⟩
        · rintro rfl; exact hpoint hc
        · rintro rfl; exact hlower hc
        · rintro rfl; exact hupper hc
  · rintro ⟨hi, hend⟩
    exact ⟨hi, .absent fun h => (hend _ h).1 rfl,
      .absent (fun h => (hend _ h).2.1 rfl) fun h => (hend _ h).2.2 rfl⟩

/-- **The literals of digits alone are read as unsigned integers**, within 64 bits. -/
theorem readNumber_eq_unsigned_iff {s r : List Char} {n : Nat} :
    readNumber s = .ok (.unsigned n, r) ↔
      ∃ l, SpellsNumber s r ∧ s = l ++ r ∧ (∀ c ∈ l, c.isDigit = true) ∧
        n = Nat.ofDigitChars 10 l 0 ∧ n ≤ wordMax := by
  constructor
  · intro h
    unfold readNumber at h
    split at h
    · cases (readUnsigned_eq_unsigned_iff.1 h).1
    · obtain ⟨-, hi, hend, hn⟩ := readUnsigned_eq_unsigned_iff.1 h
      have hs : s = s.takeWhile Char.isDigit ++ r := by
        rw [hi.eq_dropWhile, List.takeWhile_append_dropWhile]
      have hl : ∀ c ∈ s.takeWhile Char.isDigit, c.isDigit = true :=
        fun _ hc => List.mem_takeWhile_imp hc
      refine ⟨s.takeWhile Char.isDigit, .unsigned ?_, hs, hl, hn⟩
      rw [hs] at hi ⊢
      exact (spellsUnsigned_digits_iff hl).2 ⟨hi, hend⟩
  · rintro ⟨l, hs, rfl, hl, hn⟩
    generalize hspelled : l ++ r = s at hs
    cases hs with
    | unsigned h =>
      subst hspelled
      obtain ⟨hi, hend⟩ := (spellsUnsigned_digits_iff hl).1 h
      rw [readNumber.eq_def]
      split
      · next heq => exact absurd (heq ▸ h) not_spellsUnsigned_minus
      · exact readUnsigned_eq_unsigned_iff.2 ⟨rfl, hi, hend, by rwa [hi.takeWhile_eq]⟩
    | negative h =>
      -- The sign would be the first of the digits, or be left over.
      cases l with
      | nil =>
        have := h.suffix.length_le
        rw [List.nil_append] at hspelled
        rw [hspelled, List.length_cons] at this
        omega
      | cons c l =>
        rw [List.cons_append, List.cons.injEq] at hspelled
        exact absurd (hl c List.mem_cons_self) (by rw [hspelled.1]; decide)

/-! ### Literals -/

theorem readLiteral_eq_ok_iff {ws s r : List Char} : readLiteral ws s = .ok r ↔ s = ws ++ r := by
  fun_induction readLiteral ws s with
  | case1 => rw [Except.ok.injEq, List.nil_append]
  | case2 => simp
  | case3 w ws s ih => rw [ih, List.cons_append, List.cons.injEq, and_iff_right rfl]
  | case4 => simp_all

end ProcTrace.Json
