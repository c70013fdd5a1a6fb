import Mathlib.Data.List.DropRight
import ProcTrace.Proofs.Json.Tokens

/-!
# Any value is skipped, and nothing else

`skipValue` knows nothing of values. It keeps the brackets that are open and what is due next, and
goes on until all brackets are closed again. What it amounts to is said by the grammar: a text on
which it is at work **completes** what is due, and after that closes one bracket after the other
(`Completes`). Every stage of `skipUntilClosed` turns this into the same demand on the text that is
left, whether or not it can be met, so that the induction on the stages gives both directions at
once (`skipUntilClosed_eq_ok_iff`).

The first character of a value tells which rule of the grammar it was spelled by. From this it
follows that no text spells two values (`Spells.unique`).
-/

namespace ProcTrace.Json

variable {s t r : List Char} {c : Char} {v : Value}

/-! ### The first character of a value -/

private theorem skipSpace_skipSpace (s : List Char) : skipSpace (skipSpace s) = skipSpace s :=
  List.dropWhile_idempotent isSpace s

theorem skipSpace_ne_cons {d : Char} (h : skipSpace s = c :: t) (hc : c ≠ d) (u : List Char) :
    skipSpace s ≠ d :: u := by
  rw [h]
  rintro ⟨⟩
  exact hc rfl

/-- Spaces in front of a value make no difference. -/
theorem Spells.of_skipSpace_eq {s' : List Char} (h : Spells s v r)
    (hs : skipSpace s = skipSpace s') : Spells s' v r := by
  cases h with
  | null h => exact .null (hs ▸ h)
  | true h => exact .true (hs ▸ h)
  | false h => exact .false (hs ▸ h)
  | number h hl => exact .number (hs ▸ h) (hs ▸ hl)
  | text h hps => exact .text (hs ▸ h) hps
  | list h hvs => exact .list (hs ▸ h) hvs
  | object h hms => exact .object (hs ▸ h) hms

theorem spells_skipSpace_iff : Spells (skipSpace s) v r ↔ Spells s v r :=
  ⟨fun h => h.of_skipSpace_eq (skipSpace_skipSpace s),
    fun h => h.of_skipSpace_eq (skipSpace_skipSpace s).symm⟩

/-- A number starts with its sign or with a digit. -/
theorem SpellsNumber.head (h : SpellsNumber (c :: t) r) : c = '-' ∨ c.isDigit = true := by
  cases h with
  | unsigned h =>
    obtain ⟨hi, -, -⟩ := h
    cases hi with
    | zero => exact .inr rfl
    | digits h => exact .inr (spellsDigits_cons_iff.1 h).1
  | negative => exact .inl rfl

private theorem not_spellsNumber_nil : ¬ SpellsNumber [] r := by
  rintro ⟨⟨hi, -, -⟩⟩
  cases hi with
  | digits h => exact not_spellsDigits_nil h

/-- A value starts somewhere. -/
theorem not_spells_nil (h : skipSpace s = []) : ¬ Spells s v r := by
  intro hv
  cases hv with
  | number hn => exact not_spellsNumber_nil (h ▸ hn)
  | _ h' => rw [h] at h'; cases h'

/-- No value starts where a list ends. -/
theorem not_spells_close (h : skipSpace s = ']' :: t) : ¬ Spells s v r := by
  intro hv
  cases hv with
  | number hn => exact absurd (h ▸ hn).head (by decide)
  | _ h' => rw [h] at h'; cases h'

/-- What starts with a quote is a text. -/
theorem spells_text_iff (h : skipSpace s = '"' :: t) :
    Spells s v r ↔ ∃ ps, v = .text ps ∧ SpellsText t ps r := by
  constructor
  · intro hv
    cases hv with
    | text h' hps => rw [h] at h'; cases h'; exact ⟨_, rfl, hps⟩
    | number hn => exact absurd (h ▸ hn).head (by decide)
    | _ h' => rw [h] at h'; cases h'
  · rintro ⟨ps, rfl, hps⟩
    exact .text h hps

/-- What starts with a bracket is a list. -/
theorem spells_list_iff (h : skipSpace s = '[' :: t) :
    Spells s v r ↔ ∃ vs, v = .list vs ∧ SpellsElements true t vs r := by
  constructor
  · intro hv
    cases hv with
    | list h' hvs => rw [h] at h'; cases h'; exact ⟨_, rfl, hvs⟩
    | number hn => exact absurd (h ▸ hn).head (by decide)
    | _ h' => rw [h] at h'; cases h'
  · rintro ⟨vs, rfl, hvs⟩
    exact .list h hvs

/-- What starts with a brace is an object. -/
theorem spells_object_iff (h : skipSpace s = '{' :: t) :
    Spells s v r ↔ ∃ ms, v = .object ms ∧ SpellsMembers true t ms r := by
  constructor
  · intro hv
    cases hv with
    | object h' hms => rw [h] at h'; cases h'; exact ⟨_, rfl, hms⟩
    | number hn => exact absurd (h ▸ hn).head (by decide)
    | _ h' => rw [h] at h'; cases h'
  · rintro ⟨ms, rfl, hms⟩
    exact .object h hms

/-- What starts as a number does is a number. -/
theorem spells_number_iff (h : skipSpace s = c :: t) (hc : c = '-' ∨ c.isDigit = true) :
    Spells s v r ↔ ∃ l, v = .number l ∧ SpellsNumber (c :: t) r ∧ c :: t = l ++ r := by
  constructor
  · intro hv
    cases hv with
    | number hn hl => exact ⟨_, rfl, h ▸ hn, h ▸ hl⟩
    | _ h' =>
      rw [h] at h'
      cases h'
      exact absurd hc (by decide)
  · rintro ⟨l, rfl, hn, hl⟩
    exact .number (h ▸ hn) (h ▸ hl)

/-! ### Values that hold no others -/

theorem SpellsNumber.skipScalar_eq (h : SpellsNumber s r) : skipScalar s = .ok r := by
  cases h with
  | negative h => exact skipNumber_eq_ok_iff.2 h
  | unsigned h =>
    have hskip := skipNumber_eq_ok_iff.2 h
    cases s with
    | nil => exact absurd (.unsigned h) not_spellsNumber_nil
    | cons c t =>
      have hc : c.isDigit = true := by
        obtain rfl | hc := (SpellsNumber.unsigned h).head
        · exact absurd h not_spellsUnsigned_minus
        · exact hc
      rw [skipScalar, if_pos hc, hskip]
      all_goals
        rintro rfl
        cases hc

private theorem exists_spells_number (h : SpellsNumber (skipSpace s) r) : ∃ v, Spells s v r := by
  obtain ⟨l, hl⟩ := h.suffix
  exact ⟨.number l, .number h hl.symm⟩

/-- What is neither a list nor an object is skipped in one go. -/
private theorem skipScalar_eq_ok_iff (hlist : ∀ t, skipSpace s ≠ '[' :: t)
    (hobject : ∀ t, skipSpace s ≠ '{' :: t) :
    skipScalar (skipSpace s) = .ok r ↔ ∃ v, Spells s v r := by
  constructor
  · intro h
    have hspace : skipSpace (skipSpace s) = skipSpace s := skipSpace_skipSpace s
    simp only [← spells_skipSpace_iff (s := s)]
    generalize skipSpace s = u at h hspace
    unfold skipScalar at h
    split at h
    · cases h
    · rw [readLiteral_eq_ok_iff] at h
      subst h
      exact ⟨_, .null hspace⟩
    · rw [readLiteral_eq_ok_iff] at h
      subst h
      exact ⟨_, .true hspace⟩
    · rw [readLiteral_eq_ok_iff] at h
      subst h
      exact ⟨_, .false hspace⟩
    · exact exists_spells_number (hspace.symm ▸ .negative (skipNumber_eq_ok_iff.1 h))
    · rw [skipText_eq_ok_iff] at h
      obtain ⟨ps, hps⟩ := h
      exact ⟨_, .text hspace hps⟩
    · split at h
      · exact exists_spells_number (hspace.symm ▸ .unsigned (skipNumber_eq_ok_iff.1 h))
      · cases h
  · rintro ⟨v, hv⟩
    cases hv with
    | null h => rw [h]; exact readLiteral_eq_ok_iff.2 rfl
    | true h => rw [h]; exact readLiteral_eq_ok_iff.2 rfl
    | false h => rw [h]; exact readLiteral_eq_ok_iff.2 rfl
    | number hn => exact hn.skipScalar_eq
    | text h hps => rw [h]; exact skipText_eq_ok_iff.2 ⟨_, hps⟩
    | list h => exact absurd h (hlist _)
    | object h => exact absurd h (hobject _)

/-! ### Elements and members -/

section Entries

variable {first : Bool} {vs : List Value} {ms : List (List Part × Value)}

theorem spellsElements_close_iff (h : skipSpace s = ']' :: t) :
    SpellsElements first s vs r ↔ vs = [] ∧ r = t := by
  constructor
  · intro hvs
    cases hvs with
    | close h' => rw [h] at h'; cases h'; exact ⟨rfl, rfl⟩
    | first hv => exact absurd hv (not_spells_close h)
    | next h' => rw [h] at h'; cases h'
  · rintro ⟨rfl, rfl⟩
    exact .close h

theorem spellsElements_first_iff (h : ∀ t, skipSpace s ≠ ']' :: t) :
    SpellsElements true s vs r ↔
      ∃ v u vs', vs = v :: vs' ∧ Spells s v u ∧ SpellsElements false u vs' r := by
  constructor
  · intro hvs
    cases hvs with
    | close h' => exact absurd h' (h _)
    | first hv hvs => exact ⟨_, _, _, rfl, hv, hvs⟩
  · rintro ⟨v, u, vs', rfl, hv, hvs⟩
    exact .first hv hvs

theorem spellsElements_next_iff (h : ∀ t, skipSpace s ≠ ']' :: t) :
    SpellsElements false s vs r ↔ ∃ t v u vs', skipSpace s = ',' :: t ∧ vs = v :: vs' ∧
      Spells t v u ∧ SpellsElements false u vs' r := by
  constructor
  · intro hvs
    cases hvs with
    | close h' => exact absurd h' (h _)
    | next h' hv hvs => exact ⟨_, _, _, _, h', rfl, hv, hvs⟩
  · rintro ⟨t, v, u, vs', h', rfl, hv, hvs⟩
    exact .next h' hv hvs

theorem spellsMembers_close_iff (h : skipSpace s = '}' :: t) :
    SpellsMembers first s ms r ↔ ms = [] ∧ r = t := by
  constructor
  · intro hms
    cases hms with
    | close h' => rw [h] at h'; cases h'; exact ⟨rfl, rfl⟩
    | first hk => obtain ⟨h', -, -⟩ := hk; rw [h] at h'; cases h'
    | next h' => rw [h] at h'; cases h'
  · rintro ⟨rfl, rfl⟩
    exact .close h

theorem spellsMembers_first_iff (h : ∀ t, skipSpace s ≠ '}' :: t) :
    SpellsMembers true s ms r ↔ ∃ k t v u ms', ms = (k, v) :: ms' ∧ SpellsKey s k t ∧
      Spells t v u ∧ SpellsMembers false u ms' r := by
  constructor
  · intro hms
    cases hms with
    | close h' => exact absurd h' (h _)
    | first hk hv hms => exact ⟨_, _, _, _, _, rfl, hk, hv, hms⟩
  · rintro ⟨k, t, v, u, ms', rfl, hk, hv, hms⟩
    exact .first hk hv hms

theorem spellsMembers_next_iff (h : ∀ t, skipSpace s ≠ '}' :: t) :
    SpellsMembers false s ms r ↔ ∃ t k u v w ms', skipSpace s = ',' :: t ∧ ms = (k, v) :: ms' ∧
      SpellsKey t k u ∧ Spells u v w ∧ SpellsMembers false w ms' r := by
  constructor
  · intro hms
    cases hms with
    | close h' => exact absurd h' (h _)
    | next h' hk hv hms => exact ⟨_, _, _, _, _, _, h', rfl, hk, hv, hms⟩
  · rintro ⟨t, k, u, v, w, ms', h', rfl, hk, hv, hms⟩
    exact .next h' hk hv hms

/-- Spaces in front of a key make no difference. -/
private theorem spellsKey_skipSpace_iff {k : List Part} :
    SpellsKey (skipSpace s) k r ↔ SpellsKey s k r := by
  constructor
  · rintro ⟨h, hk, hcolon⟩
    exact .quoted (skipSpace_skipSpace s ▸ h) hk hcolon
  · rintro ⟨h, hk, hcolon⟩
    exact .quoted ((skipSpace_skipSpace s).trans h) hk hcolon

/-- No key starts where an object ends. -/
theorem SpellsKey.ne_close {k : List Part} (hk : SpellsKey s k r) : skipSpace s ≠ '}' :: t := by
  obtain ⟨h, -, -⟩ := hk
  simp [h]

theorem not_spellsKey_nil {k : List Part} (h : skipSpace s = []) : ¬ SpellsKey s k r := by
  rintro ⟨h', -, -⟩
  rw [h] at h'
  cases h'

end Entries

/-! ### Brackets -/

/-- The text goes on with the rest of what is inside a bracket, up to the end of the bracket. -/
def SpellsRest (first : Bool) : Bracket → List Char → List Char → Prop
  | .list, s, r => ∃ vs, SpellsElements first s vs r
  | .object, s, r => ∃ ms, SpellsMembers first s ms r

/-- What comes before a value inside a bracket is run over: a key and its colon in an object. -/
private theorem skipKey_object_eq_ok_iff : skipKey .object s = .ok r ↔ ∃ k, SpellsKey s k r := by
  constructor
  · intro h
    unfold skipKey at h
    simp only at h
    split at h
    · cases h
    · next hquote =>
      split at h
      · cases h
      · next htext =>
        obtain ⟨k, hk⟩ := skipText_eq_ok_iff.1 htext
        split at h
        · cases h
        · next hcolon =>
          cases h
          exact ⟨k, .quoted hquote hk hcolon⟩
        · cases h
    · cases h
  · rintro ⟨k, hquote, hk, hcolon⟩
    simp only [skipKey, hquote, skipText_eq_ok_iff.2 ⟨k, hk⟩, hcolon]

variable {b : Bracket} {first : Bool}

private theorem not_spellsRest_nil (h : skipSpace s = []) : ¬ SpellsRest first b s r := by
  intro hrest
  cases b with
  | list =>
    obtain ⟨vs, hvs⟩ := hrest
    cases hvs with
    | first hv => exact not_spells_nil h hv
    | _ h' => rw [h] at h'; cases h'
  | object =>
    obtain ⟨ms, hms⟩ := hrest
    cases hms with
    | first hk => exact not_spellsKey_nil h hk
    | _ h' => rw [h] at h'; cases h'

/-- Where a bracket is closed, nothing is left of it. -/
private theorem spellsRest_close_iff (h : skipSpace s = c :: t) (hc : b.closedBy c = true) :
    SpellsRest first b s r ↔ r = t := by
  cases b with
  | list =>
    obtain rfl : c = ']' := of_decide_eq_true hc
    simp [SpellsRest, spellsElements_close_iff h]
  | object =>
    obtain rfl : c = '}' := of_decide_eq_true hc
    simp [SpellsRest, spellsMembers_close_iff h]

/-- The first entry of a bracket. -/
private theorem spellsRest_first_iff (h : skipSpace s = c :: t) (hc : ¬ b.closedBy c = true) :
    SpellsRest true b s r ↔
      ∃ u v w, skipKey b (c :: t) = .ok u ∧ Spells u v w ∧ SpellsRest false b w r := by
  cases b with
  | list =>
    have hopen := skipSpace_ne_cons h (d := ']') (by rintro rfl; exact hc rfl)
    simp only [SpellsRest, spellsElements_first_iff hopen]
    constructor
    · rintro ⟨_, v, w, vs, rfl, hv, hvs⟩
      exact ⟨c :: t, v, w, rfl, h ▸ spells_skipSpace_iff.2 hv, vs, hvs⟩
    · rintro ⟨u, v, w, hu, hv, vs, hvs⟩
      cases hu
      exact ⟨_, v, w, vs, rfl, spells_skipSpace_iff.1 (h ▸ hv), hvs⟩
  | object =>
    have hopen := skipSpace_ne_cons h (d := '}') (by rintro rfl; exact hc rfl)
    simp only [SpellsRest, spellsMembers_first_iff hopen, skipKey_object_eq_ok_iff, ← h,
      spellsKey_skipSpace_iff]
    constructor
    · rintro ⟨_, k, u, v, w, ms, rfl, hk, hv, hms⟩
      exact ⟨u, v, w, ⟨k, hk⟩, hv, ms, hms⟩
    · rintro ⟨u, v, w, ⟨k, hk⟩, hv, ms, hms⟩
      exact ⟨_, k, u, v, w, ms, rfl, hk, hv, hms⟩

/-- A further entry of a bracket. -/
private theorem spellsRest_next_iff (h : skipSpace s = c :: t) (hc : ¬ b.closedBy c = true) :
    SpellsRest false b s r ↔
      c = ',' ∧ ∃ u v w, skipKey b t = .ok u ∧ Spells u v w ∧ SpellsRest false b w r := by
  cases b with
  | list =>
    have hopen := skipSpace_ne_cons h (d := ']') (by rintro rfl; exact hc rfl)
    simp only [SpellsRest, spellsElements_next_iff hopen, h]
    constructor
    · rintro ⟨_, u, v, w, vs, hcomma, rfl, hv, hvs⟩
      cases hcomma
      exact ⟨rfl, t, v, w, rfl, hv, vs, hvs⟩
    · rintro ⟨rfl, u, v, w, hu, hv, vs, hvs⟩
      cases hu
      exact ⟨_, t, v, w, vs, rfl, rfl, hv, hvs⟩
  | object =>
    have hopen := skipSpace_ne_cons h (d := '}') (by rintro rfl; exact hc rfl)
    simp only [SpellsRest, spellsMembers_next_iff hopen, skipKey_object_eq_ok_iff, h]
    constructor
    · rintro ⟨_, _, k, u, v, w, ms, hcomma, rfl, hk, hv, hms⟩
      cases hcomma
      exact ⟨rfl, u, v, w, ⟨k, hk⟩, hv, ms, hms⟩
    · rintro ⟨rfl, u, v, w, ⟨k, hk⟩, hv, ms, hms⟩
      exact ⟨_, t, k, u, v, w, ms, rfl, rfl, hk, hv, hms⟩

/-- The text **closes** every bracket that is open, from the innermost one outwards. -/
def Closes : List Bracket → List Char → List Char → Prop
  | [], s, r => s = r
  | b :: outer, s, r => ∃ t, SpellsRest false b s t ∧ Closes outer t r

/-- The text **completes** what is due, and then closes every bracket that is open. -/
def Completes : List Bracket → Due → List Char → List Char → Prop
  | open_, .value, s, r => ∃ v t, Spells s v t ∧ Closes open_ t r
  | [], .firstEntry, s, r => s = r
  | b :: outer, .firstEntry, s, r => ∃ t, SpellsRest true b s t ∧ Closes outer t r
  | open_, .nextEntry, s, r => Closes open_ s r

/-- A value inside a bracket is due, and then the rest of the bracket. -/
private theorem completes_value_iff {outer : List Bracket} {t r : List Char} :
    (∃ v u, Spells t v u ∧ ∃ w, SpellsRest false b u w ∧ Closes outer w r) ↔
      ∃ w, (∃ t' v u, t = t' ∧ Spells t' v u ∧ SpellsRest false b u w) ∧ Closes outer w r := by
  constructor
  · rintro ⟨v, u, hv, w, hrest, h⟩
    exact ⟨w, ⟨t, v, u, rfl, hv, hrest⟩, h⟩
  · rintro ⟨w, ⟨_, v, u, rfl, hv, hrest⟩, h⟩
    exact ⟨v, u, hv, w, hrest, h⟩

theorem skipUntilClosed_eq_ok_iff {open_ : List Bracket} {due : Due} {s r : List Char} :
    skipUntilClosed open_ due s = .ok r ↔ Completes open_ due s r := by
  fun_induction skipUntilClosed open_ due s with
  | case1 o s t hs _ ih =>
    simp only [ih, Completes, spells_list_iff hs]
    constructor
    · rintro ⟨u, ⟨vs, hvs⟩, h⟩
      exact ⟨_, u, ⟨vs, rfl, hvs⟩, h⟩
    · rintro ⟨_, u, ⟨vs, rfl, hvs⟩, h⟩
      exact ⟨u, ⟨vs, hvs⟩, h⟩
  | case2 o s t hs _ ih =>
    simp only [ih, Completes, spells_object_iff hs]
    constructor
    · rintro ⟨u, ⟨ms, hms⟩, h⟩
      exact ⟨_, u, ⟨ms, rfl, hms⟩, h⟩
    · rintro ⟨_, u, ⟨ms, rfl, hms⟩, h⟩
      exact ⟨u, ⟨ms, hms⟩, h⟩
  | case3 s o e hlist hobject hskip =>
    simp only [Completes, reduceCtorEq, false_iff]
    rintro ⟨v, t, hv, -⟩
    rw [(skipScalar_eq_ok_iff hlist hobject).2 ⟨v, hv⟩] at hskip
    cases hskip
  | case4 s o t hlist hobject hskip _ ih =>
    simp only [ih, Completes]
    have ht (u : List Char) : (∃ v, Spells s v u) ↔ u = t := by
      rw [← skipScalar_eq_ok_iff hlist hobject, hskip, Except.ok.injEq, eq_comm]
    constructor
    · intro h
      obtain ⟨v, hv⟩ := (ht t).2 rfl
      exact ⟨v, t, hv, h⟩
    · rintro ⟨v, u, hv, h⟩
      exact (ht u).1 ⟨v, hv⟩ ▸ h
  | case5 s => simp [Completes]
  | case6 s => simp [Completes, Closes]
  | case7 _ _ _ hs => simp [Completes, not_spellsRest_nil hs]
  | case8 _ _ _ _ _ hs _ hc ih => simp [ih, Completes, spellsRest_close_iff hs hc]
  | case9 _ _ _ _ _ hs _ hc _ hkey => simp [Completes, spellsRest_first_iff hs hc, hkey]
  | case10 _ _ _ _ _ hs _ hc _ hkey _ ih =>
    rw [ih]
    simp only [Completes, Closes, spellsRest_first_iff hs hc, hkey, Except.ok.injEq]
    exact completes_value_iff
  | case11 _ _ _ hs => simp [Completes, Closes, not_spellsRest_nil hs]
  | case12 _ _ _ _ _ hs _ hc ih => simp [ih, Completes, Closes, spellsRest_close_iff hs hc]
  | case13 _ _ _ _ _ hkey hs _ hc => simp [Completes, Closes, spellsRest_next_iff hs hc, hkey]
  | case14 _ _ _ _ _ hkey _ hs _ hc ih =>
    rw [ih]
    simp only [Completes, Closes, spellsRest_next_iff hs hc, hkey, Except.ok.injEq, true_and]
    exact completes_value_iff
  | case15 _ _ _ _ _ hs _ hc hcomma =>
    simp [Completes, Closes, spellsRest_next_iff hs hc, hcomma]

/-- **Exactly the spelled values are skipped.** -/
theorem skipValue_eq_ok_iff : skipValue s = .ok r ↔ ∃ v, Spells s v r := by
  rw [skipValue, skipUntilClosed_eq_ok_iff]
  constructor
  · rintro ⟨v, t, hv, rfl⟩
    exact ⟨v, hv⟩
  · rintro ⟨v, hv⟩
    exact ⟨v, r, hv, rfl⟩

/-! ### No text spells two values -/

/-- A value ends where it is skipped to. -/
theorem Spells.rest_unique {v' : Value} {r' : List Char} (h : Spells s v r)
    (h' : Spells s v' r') : r = r' := by
  have hr := skipValue_eq_ok_iff.2 ⟨v, h⟩
  rw [skipValue_eq_ok_iff.2 ⟨v', h'⟩] at hr
  cases hr
  rfl

theorem SpellsKey.unique {s r r' : List Char} {k k' : List Part} (h : SpellsKey s k r)
    (h' : SpellsKey s k' r') : k = k' ∧ r = r' := by
  obtain ⟨hquote, hk, hcolon⟩ := h
  obtain ⟨hquote', hk', hcolon'⟩ := h'
  rw [hquote] at hquote'
  cases hquote'
  obtain ⟨rfl, rfl⟩ := hk.unique hk'
  rw [hcolon] at hcolon'
  cases hcolon'
  exact ⟨rfl, rfl⟩

mutual

/-- **No text spells two values.** -/
theorem Spells.unique {s r r' : List Char} {v v' : Value} (h : Spells s v r)
    (h' : Spells s v' r') : v = v' := by
  have hr := h.rest_unique h'
  cases h with
  | null h | true h | false h =>
    cases h' with
    | number hn => exact absurd (h ▸ hn).head (by decide)
    | _ h' => cases h.symm.trans h' <;> rfl
  | number hn hl =>
    cases hs : skipSpace s with
    | nil => exact absurd (hs ▸ hn) not_spellsNumber_nil
    | cons c t =>
      rw [hs] at hn hl
      obtain ⟨l, rfl, -, hl'⟩ := (spells_number_iff hs hn.head).1 h'
      rw [hl', hr, List.append_left_inj] at hl
      rw [hl]
  | text h hps =>
    obtain ⟨ps, rfl, hps'⟩ := (spells_text_iff h).1 h'
    rw [(hps.unique hps').1]
  | list h hvs =>
    obtain ⟨vs, rfl, hvs'⟩ := (spells_list_iff h).1 h'
    rw [hvs.unique hvs']
  | object h hms =>
    obtain ⟨ms, rfl, hms'⟩ := (spells_object_iff h).1 h'
    rw [hms.unique hms']

theorem SpellsElements.unique {first : Bool} {s r r' : List Char} {vs vs' : List Value}
    (h : SpellsElements first s vs r) (h' : SpellsElements first s vs' r') : vs = vs' := by
  cases h with
  | close h => exact ((spellsElements_close_iff h).1 h').1.symm
  | first hv hvs =>
    obtain ⟨v', u, vs', rfl, hv', hvs'⟩ :=
      (spellsElements_first_iff fun _ h => not_spells_close h hv).1 h'
    cases hv.rest_unique hv'
    rw [hv.unique hv', hvs.unique hvs']
  | next h hv hvs =>
    obtain ⟨t, v', u, vs', ht, rfl, hv', hvs'⟩ :=
      (spellsElements_next_iff (by simp [h])).1 h'
    rw [h] at ht
    cases ht
    cases hv.rest_unique hv'
    rw [hv.unique hv', hvs.unique hvs']

theorem SpellsMembers.unique {first : Bool} {s r r' : List Char}
    {ms ms' : List (List Part × Value)} (h : SpellsMembers first s ms r)
    (h' : SpellsMembers first s ms' r') : ms = ms' := by
  cases h with
  | close h => exact ((spellsMembers_close_iff h).1 h').1.symm
  | first hk hv hms =>
    obtain ⟨k', t, v', u, ms', rfl, hk', hv', hms'⟩ :=
      (spellsMembers_first_iff fun _ => hk.ne_close).1 h'
    obtain ⟨rfl, rfl⟩ := hk.unique hk'
    cases hv.rest_unique hv'
    rw [hv.unique hv', hms.unique hms']
  | next h hk hv hms =>
    obtain ⟨t, k', u, v', w, ms', ht, rfl, hk', hv', hms'⟩ :=
      (spellsMembers_next_iff (by simp [h])).1 h'
    rw [h] at ht
    cases ht
    obtain ⟨rfl, rfl⟩ := hk.unique hk'
    cases hv.rest_unique hv'
    rw [hv.unique hv', hms.unique hms']

end

/-- A whole text is a text of one value. -/
theorem IsTextOf.unique {whole : List Char} {v v' : Value} (h : IsTextOf whole v)
    (h' : IsTextOf whole v') : v = v' := by
  obtain ⟨r, hv, -⟩ := h
  obtain ⟨r', hv', -⟩ := h'
  exact hv.unique hv'

end ProcTrace.Json
