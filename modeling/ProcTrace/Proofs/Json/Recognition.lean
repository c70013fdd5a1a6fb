import ProcTrace.Proofs.Json.Skipping

/-!
# What readers recognise

A reader **recognises** a relation between values and results if it reads exactly the texts of those
values that are related to some result, and yields this result (`Reader.Recognises`). So the
relation says all that there is to say about the reader, in terms that know nothing of texts:
layout, order of characters and ways to escape them are the matter of the grammar.

The readers of leaves and of lists are treated here.
-/

namespace ProcTrace.Json

variable {α β : Type}

/-- The reader **recognises** the relation: it reads exactly the texts of related values. -/
structure Reader.Recognises (x : Reader α) (D : Value → α → Prop) : Prop where
  run_iff : ∀ {s r : List Char} {a : α}, x.run s = .ok (a, r) ↔ ∃ v, Spells s v r ∧ D v a

theorem Reader.Recognises.congr {x : Reader α} {D D' : Value → α → Prop} (h : x.Recognises D)
    (hD : ∀ v a, D v a ↔ D' v a) : x.Recognises D' :=
  ⟨h.run_iff.trans (exists_congr fun v => and_congr_right fun _ => hD v _)⟩

theorem Reader.Recognises.map {x : Reader α} {D : Value → α → Prop} (h : x.Recognises D)
    (f : α → β) : (x.map f).Recognises fun v b => ∃ a, D v a ∧ f a = b := by
  refine ⟨fun {s r b} => ?_⟩
  constructor
  · intro hrun
    simp only [Reader.map] at hrun
    split at hrun
    · next a t hx =>
      cases hrun
      obtain ⟨v, hv, ha⟩ := h.run_iff.1 hx
      exact ⟨v, hv, a, ha, rfl⟩
    · cases hrun
  · rintro ⟨v, hv, a, ha, rfl⟩
    simp only [Reader.map, h.run_iff.2 ⟨v, hv, ha⟩]

/-! ### Leaves -/

/-- The value is an unsigned integer: a number whose literal is made of digits alone. -/
def IsNatural (v : Value) (n : Nat) : Prop :=
  ∃ l, v = .number l ∧ (∀ c ∈ l, c.isDigit = true) ∧ Nat.ofDigitChars 10 l 0 = n

/-- The value is a text whose parts make the characters. -/
def IsText (v : Value) (cs : List Char) : Prop :=
  ∃ ps, v = .text ps ∧ decode ps = some cs

theorem natural_recognises {max : Nat} (wanted : String) (hmax : max ≤ wordMax) :
    (natural max wanted).Recognises fun v n => IsNatural v n ∧ n ≤ max := by
  refine ⟨fun {s r n} => ?_⟩
  simp only [natural]
  split
  · next hs => simp [not_spells_nil hs]
  · next c t hs =>
    split
    · next hc =>
      have hnumber : (∃ v, Spells s v r ∧ IsNatural v n ∧ n ≤ max) ↔
          readNumber (c :: t) = .ok (.unsigned n, r) ∧ n ≤ max := by
        simp only [readNumber_eq_unsigned_iff, spells_number_iff hs hc]
        constructor
        · rintro ⟨_, ⟨l, rfl, hn, hl⟩, ⟨l', hl', hdigits, rfl⟩, hle⟩
          cases hl'
          exact ⟨⟨l, hn, hl, hdigits, rfl, Nat.le_trans hle hmax⟩, hle⟩
        · rintro ⟨⟨l, hn, hl, hdigits, rfl, -⟩, hle⟩
          exact ⟨_, ⟨l, rfl, hn, hl⟩, ⟨l, rfl, hdigits, rfl⟩, hle⟩
      rw [hnumber]
      split
      · next hread => simp [hread]
      · next m u hread =>
        split
        · next hm =>
          simp only [hread, Except.ok.injEq, Prod.mk.injEq, Number.unsigned.injEq]
          constructor
          · rintro ⟨rfl, rfl⟩
            exact ⟨⟨rfl, rfl⟩, hm⟩
          · exact And.left
        · next hm =>
          simp only [hread, reduceCtorEq, Except.ok.injEq, Prod.mk.injEq, Number.unsigned.injEq,
            false_iff, not_and]
          rintro ⟨rfl, -⟩
          exact hm
      · next hread => simp [hread]
      · next hread => simp [hread]
    · next hc =>
      simp only [reduceCtorEq, false_iff]
      rintro ⟨_, hv, ⟨l, rfl, -⟩, -⟩
      cases hv with
      | number hn => exact hc (hs ▸ hn).head

theorem textVia_recognises (wanted : String) (check : List Char → Except String α) :
    (textVia wanted check).Recognises fun v a => ∃ cs, IsText v cs ∧ check cs = .ok a := by
  refine ⟨fun {s r a} => ?_⟩
  simp only [textVia]
  split
  · next hs => simp [not_spells_nil hs]
  · next t hs =>
    have htext : (∃ v, Spells s v r ∧ ∃ cs, IsText v cs ∧ check cs = .ok a) ↔
        ∃ cs, readText t = .ok (cs, r) ∧ check cs = .ok a := by
      simp only [readText_eq_ok_iff, spells_text_iff hs]
      constructor
      · rintro ⟨_, ⟨ps, rfl, hps⟩, cs, ⟨ps', hps', hcs⟩, ha⟩
        cases hps'
        exact ⟨cs, ⟨ps, hps, hcs⟩, ha⟩
      · rintro ⟨cs, ⟨ps, hps, hcs⟩, ha⟩
        exact ⟨_, ⟨ps, rfl, hps⟩, cs, ⟨ps, rfl, hcs⟩, ha⟩
    rw [htext]
    split
    · next hread => simp [hread]
    · next cs u hread =>
      simp only [hread, Except.ok.injEq, Prod.mk.injEq]
      split
      · next b hb =>
        rw [Except.ok.injEq, Prod.mk.injEq]
        constructor
        · rintro ⟨rfl, rfl⟩
          exact ⟨cs, ⟨rfl, rfl⟩, hb⟩
        · rintro ⟨_, ⟨rfl, rfl⟩, ha⟩
          rw [hb] at ha
          cases ha
          exact ⟨rfl, rfl⟩
      · next hb =>
        simp only [reduceCtorEq, false_iff]
        rintro ⟨_, ⟨rfl, -⟩, ha⟩
        rw [hb] at ha
        cases ha
  · next hquote =>
    simp only [reduceCtorEq, false_iff]
    rintro ⟨_, hv, cs, ⟨ps, rfl, -⟩, -⟩
    cases hv with
    | text h => exact hquote _ h

/-! ### Lists -/

section Lists

variable {first : Bool} {s t r : List Char} {vs : List Value}

theorem not_spellsElements_of_error {e : Fault} (h : nextElement first s = .error e) :
    ¬ SpellsElements first s vs r := by
  unfold nextElement at h
  split at h
  · next hs =>
    intro hvs
    cases hvs with
    | first hv => exact not_spells_nil hs hv
    | _ h' => rw [hs] at h'; cases h'
  · cases h
  · next c u hend hs =>
    have hopen := skipSpace_ne_cons hs hend
    split at h
    · cases h
    · next hfirst =>
      obtain rfl := Bool.eq_false_of_not_eq_true hfirst
      rw [spellsElements_next_iff hopen, hs]
      rintro ⟨t, v, w, vs, hcomma, rfl, hv, -⟩
      cases hcomma
      -- After the comma there has to be a value.
      rw [if_pos rfl] at h
      split at h
      · next hs' => exact not_spells_nil hs' hv
      · next hs' => exact not_spells_close hs' hv
      · cases h

/-- A list is done in front of its closing bracket. -/
theorem eq_of_nextElement_done (h : nextElement first s = .ok (.done t)) :
    skipSpace s = t ∧ ∃ r, t = ']' :: r := by
  unfold nextElement at h
  split at h
  · cases h
  · next hs => cases h; exact ⟨hs, _, rfl⟩
  · repeat' split at h
    all_goals cases h

private theorem spellsElements_of_done (h : nextElement first s = .ok (.done t)) :
    SpellsElements first s vs r ↔ vs = [] ∧ t = ']' :: r := by
  obtain ⟨hs, r', rfl⟩ := eq_of_nextElement_done h
  rw [spellsElements_close_iff hs, List.cons.injEq, eq_comm (a := r)]
  exact and_congr_right fun _ => (and_iff_right rfl).symm

theorem spellsElements_of_more {u : Unit} (h : nextElement first s = .ok (.more u t)) :
    SpellsElements first s vs r ↔
      ∃ v w vs', vs = v :: vs' ∧ Spells t v w ∧ SpellsElements false w vs' r := by
  unfold nextElement at h
  split at h
  · cases h
  · cases h
  · next c t' hend hs =>
    have hopen := skipSpace_ne_cons hs hend
    split at h
    · next hfirst =>
      cases h
      subst hfirst
      simp only [spellsElements_first_iff hopen, ← hs, spells_skipSpace_iff]
    · next hfirst =>
      obtain rfl := Bool.eq_false_of_not_eq_true hfirst
      split at h
      · next hcomma =>
        subst hcomma
        split at h
        · cases h
        · cases h
        · cases h
          simp only [spellsElements_next_iff hopen, hs, spells_skipSpace_iff]
          constructor
          · rintro ⟨_, v, w, vs', hcomma, rfl, hv, hvs⟩
            cases hcomma
            exact ⟨v, w, vs', rfl, hv, hvs⟩
          · rintro ⟨v, w, vs', rfl, hv, hvs⟩
            exact ⟨t', v, w, vs', rfl, rfl, hv, hvs⟩
      · cases h

end Lists

/-- The values of the elements up to the end of a list are related to the results. -/
def RelatesElements (D : Value → α → Prop) (first : Bool) (s : List Char) (as : List α)
    (t : List Char) : Prop :=
  ∃ vs r, t = ']' :: r ∧ SpellsElements first s vs r ∧ List.Forall₂ D vs as

/-- An element is related to what is read for it. -/
private theorem relatesElements_more_iff {x : Reader α} {D : Value → α → Prop} (hx : x.Recognises D)
    {first : Bool} {s t u : List Char} {b : Unit} {as : List α}
    (h : nextElement first s = .ok (.more b u)) :
    RelatesElements D first s as t ↔
      ∃ a w as', x.run u = .ok (a, w) ∧ RelatesElements D false w as' t ∧ as = a :: as' := by
  simp only [RelatesElements, spellsElements_of_more h]
  constructor
  · rintro ⟨_, r, rfl, ⟨v, w, vs, rfl, hv, hvs⟩, hD⟩
    cases hD with
    | cons ha has => exact ⟨_, w, _, hx.run_iff.2 ⟨v, hv, ha⟩, ⟨vs, r, rfl, hvs, has⟩, rfl⟩
  · rintro ⟨a, w, as, ha, ⟨vs, r, rfl, hvs, has⟩, rfl⟩
    obtain ⟨v, hv, ha⟩ := hx.run_iff.1 ha
    exact ⟨v :: vs, r, rfl, ⟨v, w, vs, rfl, hv, hvs⟩, .cons ha has⟩

/-- The elements of a list are read up to its end. -/
private theorem readElements_eq_ok_iff {x : Reader α} {D : Value → α → Prop} (hx : x.Recognises D)
    {first : Bool} {s t : List Char} {as : List α} :
    readElements x first s = .ok (as, t) ↔ RelatesElements D first s as t := by
  fun_induction readElements x first s generalizing as t with
  | case1 _ _ _ hnext => simp [RelatesElements, not_spellsElements_of_error hnext]
  | case2 _ _ u hnext =>
    obtain ⟨-, r, rfl⟩ := eq_of_nextElement_done hnext
    simp only [RelatesElements, spellsElements_of_done hnext]
    constructor
    · rintro ⟨⟩
      exact ⟨[], r, rfl, ⟨rfl, rfl⟩, .nil⟩
    · rintro ⟨_, _, rfl, ⟨rfl, h⟩, hD⟩
      cases h
      cases hD
      rfl
  | case3 _ _ _ _ hnext _ hrun => simp [relatesElements_more_iff hx hnext, hrun]
  | case4 _ _ _ _ hnext _ _ hrun _ _ hrest ih =>
    simp [relatesElements_more_iff hx hnext, hrun, ← ih, hrest]
  | case5 _ _ _ _ hnext _ _ hrun _ _ _ hrest ih =>
    simp only [relatesElements_more_iff hx hnext, hrun]
    constructor
    · rintro ⟨⟩
      exact ⟨_, _, _, rfl, ih.1 hrest, rfl⟩
    · rintro ⟨_, _, _, ⟨⟩, h, rfl⟩
      rw [← ih, hrest] at h
      cases h
      rfl

private theorem closeList_bracket (r : List Char) : closeList (']' :: r) = .ok r :=
  rfl

/-- The value is a list, and its elements are related to the results. -/
def IsList (D : Value → α → Prop) (v : Value) (as : List α) : Prop :=
  ∃ vs, v = .list vs ∧ List.Forall₂ D vs as

/-- **The reader of lists recognises lists** of what its elements are recognised as. -/
theorem list_recognises {x : Reader α} {D : Value → α → Prop} (hx : x.Recognises D) :
    (list x).Recognises (IsList D) := by
  refine ⟨fun {s r as} => ?_⟩
  simp only [list]
  split
  · next hs => simp [not_spells_nil hs]
  · next t hs =>
    have hlist : (∃ v, Spells s v r ∧ IsList D v as) ↔
        readElements x true t = .ok (as, ']' :: r) := by
      rw [readElements_eq_ok_iff hx]
      simp only [spells_list_iff hs]
      constructor
      · rintro ⟨_, ⟨vs, rfl, hvs⟩, vs', hvs', hD⟩
        cases hvs'
        exact ⟨vs, r, rfl, hvs, hD⟩
      · rintro ⟨vs, r', hr, hvs, hD⟩
        cases hr
        exact ⟨_, ⟨vs, rfl, hvs⟩, vs, rfl, hD⟩
    rw [hlist]
    split
    · next hread => simp [hread]
    · next hread =>
      obtain ⟨vs, r', rfl, -, -⟩ := (readElements_eq_ok_iff hx).1 hread
      simp [hread, closeList_bracket]
  · next hbracket =>
    simp only [reduceCtorEq, false_iff]
    rintro ⟨_, hv, vs, rfl, -⟩
    cases hv with
    | list h => exact hbracket _ h

/-! ### Whole texts -/

/-- **A text is parsed as what its value is recognised as.** -/
theorem Reader.Recognises.parse_eq_ok_iff {x : Reader α} {D : Value → α → Prop}
    (h : x.Recognises D) {whole : List Char} {a : α} :
    parse x whole = .ok a ↔ ∃ v, IsTextOf whole v ∧ D v a := by
  have hrun : (∃ v, IsTextOf whole v ∧ D v a) ↔
      ∃ r, x.run whole = .ok (a, r) ∧ skipSpace r = [] := by
    constructor
    · rintro ⟨v, ⟨r, hv, hr⟩, ha⟩
      exact ⟨r, h.run_iff.2 ⟨v, hv, ha⟩, hr⟩
    · rintro ⟨r, hrun, hr⟩
      obtain ⟨v, hv, ha⟩ := h.run_iff.1 hrun
      exact ⟨v, ⟨r, hv, hr⟩, ha⟩
  rw [hrun]
  simp only [parse]
  split
  · next hx => simp [hx]
  · next b r hx =>
    simp only [hx, Except.ok.injEq, Prod.mk.injEq]
    split
    · next hr => simp [hr]
    · next hr =>
      simp only [reduceCtorEq, false_iff]
      rintro ⟨_, ⟨-, rfl⟩, hr'⟩
      exact hr hr'

end ProcTrace.Json
