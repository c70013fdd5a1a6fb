import Mathlib.Tactic.MkIffOfInductiveProp
import ProcTrace.Proofs.Json.Recognition

/-!
# What records recognise

The members of a record are described by **slots** (`Slot`): how a draft keeps the content of a
member, and what the reader of the member recognises. Slots of one record are apart from each other,
so that the order in which the members of an object come makes no difference, and a draft is known
from what its slots keep.

An object is read as a record exactly if its keys are texts of characters and for every slot, the
values under its key correspond one by one to what a draft keeps for it: no value to nothing, one to
one content, and never two (`Record.Denotes`). A list in place of the object goes through the slots
in their order.
-/

namespace ProcTrace.Json

/-! ### Keys -/

/-- All keys of an object are texts of characters. -/
def HasNames (ms : List (List Part × Value)) : Prop :=
  ∀ m ∈ ms, ∃ name, decode m.1 = some name

/-- The values under a key of an object, in their order. -/
def valuesOf (ms : List (List Part × Value)) (key : String) : List Value :=
  (ms.filter fun m => decode m.1 = some key.toList).map (·.2)

/-- Values in which all texts, keys included, are texts of characters: in none of them a surrogate
stands alone. -/
inductive Value.IsLegible : Value → Prop where
  | null : IsLegible .null
  | bool (b : Bool) : IsLegible (.bool b)
  | number (literal : List Char) : IsLegible (.number literal)
  | text {ps : List Part} {cs : List Char} (h : decode ps = some cs) : IsLegible (.text ps)
  | list {vs : List Value} (h : ∀ v ∈ vs, IsLegible v) : IsLegible (.list vs)
  | object {ms : List (List Part × Value)} (hnames : HasNames ms) (h : ∀ m ∈ ms, IsLegible m.2) :
    IsLegible (.object ms)

theorem Value.IsLegible.hasNames {ms : List (List Part × Value)} (h : (Value.object ms).IsLegible) :
    HasNames ms := by
  cases h with
  | object hnames => exact hnames

/-- The values under a key are values of members. -/
theorem Value.IsLegible.of_mem_valuesOf {ms : List (List Part × Value)}
    (h : (Value.object ms).IsLegible) {key : String} {v : Value} (hv : v ∈ valuesOf ms key) :
    v.IsLegible := by
  obtain ⟨m, hm, rfl⟩ := List.mem_map.1 hv
  cases h with
  | object _ hvalues => exact hvalues m (List.mem_filter.1 hm).1

theorem hasNames_cons {k : List Part} {v : Value} {ms : List (List Part × Value)} :
    HasNames ((k, v) :: ms) ↔ (∃ name, decode k = some name) ∧ HasNames ms :=
  List.forall_mem_cons

private theorem valuesOf_cons_of_eq {k : List Part} {key : String} (h : decode k = some key.toList)
    (v : Value) (ms : List (List Part × Value)) :
    valuesOf ((k, v) :: ms) key = v :: valuesOf ms key := by
  simp [valuesOf, h]

private theorem valuesOf_cons_of_ne {k : List Part} {key : String} (h : decode k ≠ some key.toList)
    (v : Value) (ms : List (List Part × Value)) :
    valuesOf ((k, v) :: ms) key = valuesOf ms key := by
  simp [valuesOf, h]

section Keys

variable {first : Bool} {s t r key : List Char} {ms : List (List Part × Value)} {absent : Cause}

private theorem readColon_eq_ok_iff : readColon s = .ok r ↔ skipSpace s = ':' :: r := by
  unfold readColon
  split
  · next h => simp [h]
  · next h => simp [h]
  · next hcolon =>
    simp only [reduceCtorEq, false_iff]
    exact hcolon r

/-- A key that is not read is no text of characters. -/
private theorem decode_of_readKey_error {e : Fault} {k : List Part}
    (h : readKey absent (skipSpace s) = .error e) (hk : SpellsKey s k r) : decode k = none := by
  obtain ⟨hs, hk, -⟩ := hk
  rw [hs] at h
  simp only [readKey] at h
  split at h
  · next hread =>
    cases hdecode : decode k with
    | none => rfl
    | some name =>
      rw [readText_eq_ok_iff.2 ⟨k, hk, hdecode⟩] at hread
      cases hread
  · cases h

/-- The key that is read is the one that is spelled, and the colon after it is yet to be read. -/
private theorem spellsKey_of_readKey (h : readKey absent (skipSpace s) = .ok (.more key t)) :
    ∃ k, decode k = some key ∧ ∀ {k' r}, SpellsKey s k' r ↔ k' = k ∧ readColon t = .ok r := by
  unfold readKey at h
  split at h
  · cases h
  · next u hs =>
    split at h
    · cases h
    · next hread =>
      cases h
      obtain ⟨k, hk, hdecode⟩ := readText_eq_ok_iff.1 hread
      refine ⟨k, hdecode, fun {k' r} => ?_⟩
      rw [readColon_eq_ok_iff]
      constructor
      · rintro ⟨hs', hk', hcolon⟩
        rw [hs] at hs'
        cases hs'
        obtain ⟨rfl, rfl⟩ := hk.unique hk'
        exact ⟨rfl, hcolon⟩
      · rintro ⟨rfl, hcolon⟩
        exact .quoted hs hk hcolon
  · cases h

private theorem not_spellsMembers_of_error {e : Fault} (h : nextKey first s = .error e)
    (hms : SpellsMembers first s ms r) : ¬ HasNames ms := by
  unfold nextKey at h
  split at h
  · next hs =>
    cases hms with
    | first hk => exact absurd hk (not_spellsKey_nil hs)
    | _ h' => rw [hs] at h'; cases h'
  · cases h
  · next c u hend hs =>
    have hopen := skipSpace_ne_cons hs hend
    split at h
    · next hfirst =>
      subst hfirst
      rw [spellsMembers_first_iff hopen] at hms
      obtain ⟨k, t, v, w, ms, rfl, hk, -⟩ := hms
      rw [← hs] at h
      simp [hasNames_cons, decode_of_readKey_error h hk]
    · next hfirst =>
      obtain rfl := Bool.eq_false_of_not_eq_true hfirst
      rw [spellsMembers_next_iff hopen, hs] at hms
      obtain ⟨t, k, u, v, w, ms, hcomma, rfl, hk, -⟩ := hms
      cases hcomma
      rw [if_pos rfl] at h
      split at h
      · next hs' => exact absurd hs' hk.ne_close
      · simp [hasNames_cons, decode_of_readKey_error h hk]

/-- An object is done in front of its closing brace. -/
private theorem eq_of_nextKey_done (h : nextKey first s = .ok (.done t)) :
    skipSpace s = t ∧ ∃ r, t = '}' :: r := by
  unfold nextKey at h
  split at h
  · cases h
  · next hs => cases h; exact ⟨hs, _, rfl⟩
  · split at h
    · exact absurd h readKey_done
    · split at h
      · split at h
        · cases h
        · exact absurd h readKey_done
      · cases h

private theorem spellsMembers_of_done (h : nextKey first s = .ok (.done t)) :
    SpellsMembers first s ms r ↔ ms = [] ∧ t = '}' :: r := by
  obtain ⟨hs, r', rfl⟩ := eq_of_nextKey_done h
  rw [spellsMembers_close_iff hs, List.cons.injEq, eq_comm (a := r)]
  exact and_congr_right fun _ => (and_iff_right rfl).symm

private theorem spellsMembers_of_more (h : nextKey first s = .ok (.more key t)) :
    ∃ k, decode k = some key ∧ ∀ {ms r}, SpellsMembers first s ms r ↔
      ∃ u v w ms', ms = (k, v) :: ms' ∧ readColon t = .ok u ∧ Spells u v w ∧
        SpellsMembers false w ms' r := by
  unfold nextKey at h
  split at h
  · cases h
  · cases h
  · next c u hend hs =>
    have hopen := skipSpace_ne_cons hs hend
    split at h
    · next hfirst =>
      subst hfirst
      rw [← hs] at h
      obtain ⟨k, hdecode, hkey⟩ := spellsKey_of_readKey h
      refine ⟨k, hdecode, fun {ms r} => ?_⟩
      simp only [spellsMembers_first_iff hopen, hkey]
      constructor
      · rintro ⟨_, u, v, w, ms', rfl, ⟨rfl, hcolon⟩, hv, hms⟩
        exact ⟨u, v, w, ms', rfl, hcolon, hv, hms⟩
      · rintro ⟨u, v, w, ms', rfl, hcolon, hv, hms⟩
        exact ⟨k, u, v, w, ms', rfl, ⟨rfl, hcolon⟩, hv, hms⟩
    · next hfirst =>
      obtain rfl := Bool.eq_false_of_not_eq_true hfirst
      split at h
      · next hcomma =>
        subst hcomma
        split at h
        · cases h
        · obtain ⟨k, hdecode, hkey⟩ := spellsKey_of_readKey h
          refine ⟨k, hdecode, fun {ms r} => ?_⟩
          simp only [spellsMembers_next_iff hopen, hs]
          constructor
          · rintro ⟨_, _, u, v, w, ms', hcomma, rfl, hk, hv, hms⟩
            cases hcomma
            obtain ⟨rfl, hcolon⟩ := hkey.1 hk
            exact ⟨u, v, w, ms', rfl, hcolon, hv, hms⟩
          · rintro ⟨u, v, w, ms', rfl, hcolon, hv, hms⟩
            exact ⟨_, k, u, v, w, ms', rfl, rfl, hkey.2 ⟨rfl, hcolon⟩, hv, hms⟩
      · cases h

end Keys

/-! ### Slots -/

/-- A **slot** of a record whose drafts have type `σ`: how drafts keep the content of a member, and
what the reader of the member recognises. -/
structure Slot (σ : Type) where
  Content : Type
  key : String
  required : Bool
  get : σ → Option Content
  put : Content → σ → σ
  reader : Reader Content
  denotes : Value → Content → Prop
  recognises : reader.Recognises denotes
  get_put : ∀ a d, get (put a d) = some a

/-- The member that a slot describes. -/
def Slot.member {σ : Type} (f : Slot σ) : Member σ :=
  ⟨f.key, f.required, fun d => (f.get d).isSome, f.reader.map f.put⟩

/-- Slots are **apart** if they have different keys and do not concern each other's content. -/
@[mk_iff]
structure Slot.Apart {σ : Type} (f g : Slot σ) : Prop where
  key_ne : f.key ≠ g.key
  get_put_left : ∀ a d, g.get (f.put a d) = g.get d
  get_put_right : ∀ a d, f.get (g.put a d) = f.get d

/-- The slots **describe** a record. -/
structure Record.DescribedBy {σ α : Type} (x : Record σ α) (slots : List (Slot σ)) : Prop where
  members_eq : x.members = slots.map Slot.member
  apart : slots.Pairwise Slot.Apart
  get_draft : ∀ f ∈ slots, f.get x.draft = none
  ext : ∀ d d', (∀ f ∈ slots, f.get d = f.get d') → d = d'

section Objects

variable {σ : Type} {slots : List (Slot σ)}

/-- The members of an object are **taken** into a draft one after the other: a member that a slot
knows fills it, if it is still free, and any other member is passed over. -/
inductive Takes (slots : List (Slot σ)) : List (List Part × Value) → σ → σ → Prop where
  | nil (d : σ) : Takes slots [] d d
  | known {k : List Part} {v : Value} {ms : List (List Part × Value)} {d d' : σ} {f : Slot σ}
      {a : f.Content} (hf : f ∈ slots) (hkey : decode k = some f.key.toList)
      (hfree : f.get d = none) (ha : f.denotes v a) (hrest : Takes slots ms (f.put a d) d') :
      Takes slots ((k, v) :: ms) d d'
  | unknown {k : List Part} {v : Value} {ms : List (List Part × Value)} {d d' : σ}
      {name : List Char} (hkey : decode k = some name) (hunknown : ∀ f ∈ slots, f.key.toList ≠ name)
      (hrest : Takes slots ms d d') : Takes slots ((k, v) :: ms) d d'

theorem Takes.hasNames {ms : List (List Part × Value)} {d d' : σ} (h : Takes slots ms d d') :
    HasNames ms := by
  induction h with
  | nil => exact List.forall_mem_nil _
  | known _ hkey _ _ _ ih => exact hasNames_cons.2 ⟨⟨_, hkey⟩, ih⟩
  | unknown hkey _ _ ih => exact hasNames_cons.2 ⟨⟨_, hkey⟩, ih⟩

theorem Slot.Apart.symm {f g : Slot σ} (h : f.Apart g) : g.Apart f :=
  ⟨h.key_ne.symm, h.get_put_right, h.get_put_left⟩

/-- Slots of one record are the same or apart. -/
private theorem apart_of_ne (h : slots.Pairwise Slot.Apart) {f g : Slot σ} (hf : f ∈ slots)
    (hg : g ∈ slots) (hne : f ≠ g) : f.Apart g := by
  have : Std.Symm (Slot.Apart (σ := σ)) := ⟨fun _ _ => Slot.Apart.symm⟩
  exact h.forall hf hg hne

/-- A draft **gains** the values under the key of a slot. -/
def Slot.Gains (f : Slot σ) (ms : List (List Part × Value)) (d d' : σ) : Prop :=
  ∃ as, List.Forall₂ f.denotes (valuesOf ms f.key) as ∧
    (f.get d').toList = (f.get d).toList ++ as

theorem Slot.gains_nil_iff {f : Slot σ} {d d' : σ} : f.Gains [] d d' ↔ f.get d = f.get d' := by
  constructor
  · rintro ⟨as, hD, hget⟩
    cases hD
    rw [List.append_nil] at hget
    cases hd : f.get d <;> cases hd' : f.get d' <;> simp_all
  · intro h
    exact ⟨[], .nil, by rw [h, List.append_nil]⟩

/-- A member under another key is no gain. -/
theorem Slot.gains_cons_of_ne {f : Slot σ} {k : List Part} (hkey : decode k ≠ some f.key.toList)
    (v : Value) (ms : List (List Part × Value)) (d d' : σ) :
    f.Gains ((k, v) :: ms) d d' ↔ f.Gains ms d d' := by
  rw [Gains, valuesOf_cons_of_ne hkey, Gains]

/-- A member under the key of the slot is taken if the slot is still free. -/
theorem Slot.gains_cons_of_eq {f : Slot σ} {k : List Part} (hkey : decode k = some f.key.toList)
    (v : Value) (ms : List (List Part × Value)) (d d' : σ) :
    f.Gains ((k, v) :: ms) d d' ↔
      f.get d = none ∧ ∃ a, f.denotes v a ∧ f.Gains ms (f.put a d) d' := by
  simp only [Gains, valuesOf_cons_of_eq hkey, f.get_put]
  constructor
  · rintro ⟨as, hD, hget⟩
    cases hD with
    | @cons _ a _ as ha has =>
      -- A draft keeps one content for a slot at most.
      cases hd : f.get d with
      | none => exact ⟨rfl, a, ha, as, has, by rw [hget, hd]; rfl⟩
      | some b =>
        have hlength := congrArg List.length hget
        cases hd' : f.get d' <;> simp [hd, hd'] at hlength
  · rintro ⟨hfree, a, ha, as, has, hget⟩
    exact ⟨a :: as, .cons ha has, by rw [hget, hfree]; rfl⟩

theorem Slot.Apart.gains_cons_iff {f g : Slot σ} (h : f.Apart g) {k : List Part}
    (hkey : decode k = some f.key.toList) (v : Value) (a : f.Content)
    (ms : List (List Part × Value)) (d d' : σ) :
    g.Gains ((k, v) :: ms) d d' ↔ g.Gains ms (f.put a d) d' := by
  have hne : decode k ≠ some g.key.toList := by
    rw [hkey, Ne, Option.some.injEq, String.toList_inj]
    exact h.key_ne
  rw [g.gains_cons_of_ne hne, Gains, Gains, h.get_put_left]

/-- A member under a key that no slot has is no gain for any. -/
theorem Slot.gains_cons_of_unknown {k : List Part} {name : List Char} (hkey : decode k = some name)
    (hunknown : ∀ f ∈ slots, f.key.toList ≠ name) {g : Slot σ} (hg : g ∈ slots) (v : Value)
    (ms : List (List Part × Value)) (d d' : σ) :
    g.Gains ((k, v) :: ms) d d' ↔ g.Gains ms d d' := by
  refine g.gains_cons_of_ne ?_ v ms d d'
  rw [hkey]
  rintro ⟨⟩
  exact hunknown g hg rfl

/-- What is under the key of a slot is what the slot gains. -/
theorem Takes.gains (hapart : slots.Pairwise Slot.Apart) {ms : List (List Part × Value)} {d d' : σ}
    (h : Takes slots ms d d') {g : Slot σ} (hg : g ∈ slots) : g.Gains ms d d' := by
  induction h with
  | nil => exact Slot.gains_nil_iff.2 rfl
  | @known k v ms d d' f a hf hkey hfree ha _ ih =>
    by_cases hgf : f = g
    · subst hgf
      exact (f.gains_cons_of_eq hkey v ms d d').2 ⟨hfree, a, ha, ih⟩
    · exact ((apart_of_ne hapart hf hg hgf).gains_cons_iff hkey v a ms d d').2 ih
  | @unknown k v ms d d' name hkey hunknown _ ih =>
    exact (Slot.gains_cons_of_unknown hkey hunknown hg v ms d d').2 ih

private theorem takes_of_gains (hapart : slots.Pairwise Slot.Apart)
    (hext : ∀ d d' : σ, (∀ f ∈ slots, f.get d = f.get d') → d = d')
    {ms : List (List Part × Value)} {d d' : σ} (hnames : HasNames ms)
    (hgains : ∀ f ∈ slots, f.Gains ms d d') : Takes slots ms d d' := by
  induction ms generalizing d with
  | nil =>
    obtain rfl := hext d d' fun f hf => Slot.gains_nil_iff.1 (hgains f hf)
    exact .nil d
  | cons m ms ih =>
    obtain ⟨k, v⟩ := m
    obtain ⟨⟨name, hkey⟩, hnames⟩ := hasNames_cons.1 hnames
    by_cases hknown : ∃ f ∈ slots, f.key.toList = name
    · obtain ⟨f, hf, rfl⟩ := hknown
      obtain ⟨hfree, a, ha, hgain⟩ := (f.gains_cons_of_eq hkey v ms d d').1 (hgains f hf)
      refine .known hf hkey hfree ha (ih hnames fun g hg => ?_)
      by_cases hgf : f = g
      · subst hgf
        exact hgain
      · have hfg := apart_of_ne hapart hf hg hgf
        exact (hfg.gains_cons_iff hkey v a ms d d').1 (hgains g hg)
    · have hunknown : ∀ f ∈ slots, f.key.toList ≠ name := fun f hf h => hknown ⟨f, hf, h⟩
      refine .unknown hkey hunknown (ih hnames fun g hg => ?_)
      exact (Slot.gains_cons_of_unknown hkey hunknown hg v ms d d').1 (hgains g hg)

/-- **The order of members makes no difference**: members are taken if all keys have names, and
every slot gains what is under its key. -/
theorem takes_iff (hapart : slots.Pairwise Slot.Apart)
    (hext : ∀ d d' : σ, (∀ f ∈ slots, f.get d = f.get d') → d = d')
    {ms : List (List Part × Value)} {d d' : σ} :
    Takes slots ms d d' ↔ HasNames ms ∧ ∀ f ∈ slots, f.Gains ms d d' :=
  ⟨fun h => ⟨h.hasNames, fun _ => h.gains hapart⟩,
    fun ⟨hnames, hgains⟩ => takes_of_gains hapart hext hnames hgains⟩

/-- The members up to the end of an object are taken into a draft. -/
def TakesMembers (slots : List (Slot σ)) (first : Bool) (s : List Char) (d d' : σ)
    (t : List Char) : Prop :=
  ∃ ms r, t = '}' :: r ∧ SpellsMembers first s ms r ∧ Takes slots ms d d'

section Members

variable {first : Bool} {s t u key : List Char} {d d' : σ}

/-- A member that a slot knows is taken by this slot. -/
private theorem takesMembers_known_iff (hapart : slots.Pairwise Slot.Apart) {f : Slot σ}
    (hf : f ∈ slots) (h : nextKey first s = .ok (.more f.key.toList u)) :
    TakesMembers slots first s d d' t ↔
      f.get d = none ∧ ∃ w, readColon u = .ok w ∧ ∃ a s', f.reader.run w = .ok (a, s') ∧
        TakesMembers slots false s' (f.put a d) d' t := by
  obtain ⟨k, hkey, hms⟩ := spellsMembers_of_more h
  simp only [TakesMembers, hms]
  constructor
  · rintro ⟨_, r, rfl, ⟨w, v, s', ms, rfl, hcolon, hv, hms⟩, htakes⟩
    cases htakes with
    | @known _ _ _ _ _ g a hg hkey' hfree ha hrest =>
      obtain rfl : f = g := by
        by_contra hne
        rw [hkey, Option.some.injEq, String.toList_inj] at hkey'
        exact (apart_of_ne hapart hf hg hne).key_ne hkey'
      exact ⟨hfree, w, hcolon, a, s', f.recognises.run_iff.2 ⟨v, hv, ha⟩, ms, r, rfl, hms, hrest⟩
    | unknown hkey' hunknown =>
      rw [hkey] at hkey'
      cases hkey'
      exact absurd rfl (hunknown f hf)
  · rintro ⟨hfree, w, hcolon, a, s', hrun, ms, r, rfl, hms, hrest⟩
    obtain ⟨v, hv, ha⟩ := f.recognises.run_iff.1 hrun
    exact ⟨_, r, rfl, ⟨w, v, s', ms, rfl, hcolon, hv, hms⟩, .known hf hkey hfree ha hrest⟩

/-- A member that no slot knows is passed over. -/
private theorem takesMembers_unknown_iff (hunknown : ∀ f ∈ slots, f.key.toList ≠ key)
    (h : nextKey first s = .ok (.more key u)) :
    TakesMembers slots first s d d' t ↔
      ∃ w, readColon u = .ok w ∧ ∃ s', skipValue w = .ok s' ∧
        TakesMembers slots false s' d d' t := by
  obtain ⟨k, hkey, hms⟩ := spellsMembers_of_more h
  simp only [TakesMembers, hms, skipValue_eq_ok_iff]
  constructor
  · rintro ⟨_, r, rfl, ⟨w, v, s', ms, rfl, hcolon, hv, hms⟩, htakes⟩
    cases htakes with
    | known hf hkey' =>
      rw [hkey] at hkey'
      cases hkey'
      exact absurd rfl (hunknown _ hf)
    | unknown _ _ hrest => exact ⟨w, hcolon, s', ⟨v, hv⟩, ms, r, rfl, hms, hrest⟩
  · rintro ⟨w, hcolon, s', ⟨v, hv⟩, ms, r, rfl, hms, hrest⟩
    exact ⟨_, r, rfl, ⟨w, v, s', ms, rfl, hcolon, hv, hms⟩, .unknown hkey hunknown hrest⟩

/-- The member that is found under a key is that of a slot with this key. -/
private theorem exists_slot_of_find? {m : Member σ}
    (h : (slots.map Slot.member).find? (·.key.toList == key) = some m) :
    ∃ f ∈ slots, f.member = m ∧ f.key.toList = key := by
  obtain ⟨f, hf, rfl⟩ := List.mem_map.1 (List.mem_of_find?_eq_some h)
  have hkey := List.find?_some h
  exact ⟨f, hf, rfl, eq_of_beq hkey⟩

private theorem ne_of_find?_eq_none
    (h : (slots.map Slot.member).find? (·.key.toList == key) = none) :
    ∀ f ∈ slots, f.key.toList ≠ key := by
  intro f hf heq
  exact List.find?_eq_none.1 h f.member (List.mem_map_of_mem hf) (beq_iff_eq.2 heq)

/-- The reader of a member puts the content into a draft. -/
theorem Slot.member_run_eq_ok_iff {f : Slot σ} {s r : List Char} {put : σ → σ} :
    f.member.value.run s = .ok (put, r) ↔ ∃ a, f.reader.run s = .ok (a, r) ∧ f.put a = put := by
  simp only [Slot.member, Reader.map]
  split
  · next hrun => simp [hrun, and_comm]
  · next hrun => simp [hrun]

/-- **The members of an object are read as they are taken** by the slots. -/
theorem readMembers_eq_ok_iff (hapart : slots.Pairwise Slot.Apart) :
    Record.readMembers (slots.map Slot.member) d first s = .ok (d', t) ↔
      TakesMembers slots first s d d' t := by
  fun_induction Record.readMembers (slots.map Slot.member) d first s with
  | case1 _ _ _ _ hnext =>
    simp only [reduceCtorEq, false_iff]
    rintro ⟨ms, r, rfl, hms, htakes⟩
    exact not_spellsMembers_of_error hnext hms htakes.hasNames
  | case2 d _ _ _ hnext =>
    obtain ⟨-, r, rfl⟩ := eq_of_nextKey_done hnext
    simp only [TakesMembers, spellsMembers_of_done hnext]
    constructor
    · rintro ⟨⟩
      exact ⟨[], r, rfl, ⟨rfl, rfl⟩, .nil _⟩
    · rintro ⟨_, _, rfl, ⟨rfl, h⟩, htakes⟩
      cases h
      cases htakes
      rfl
  | case3 _ _ _ _ _ hnext _ _ hfind hgiven =>
    obtain ⟨f, hf, rfl, rfl⟩ := exists_slot_of_find? hfind
    have hfull : f.get _ ≠ none := Option.isSome_iff_ne_none.1 hgiven
    simp [takesMembers_known_iff hapart hf hnext, hfull]
  | case4 _ _ _ _ _ hnext _ _ hfind _ _ hcolon =>
    obtain ⟨f, hf, rfl, rfl⟩ := exists_slot_of_find? hfind
    simp [takesMembers_known_iff hapart hf hnext, hcolon]
  | case5 _ _ _ _ _ hnext _ _ hfind _ _ hcolon _ hrun =>
    obtain ⟨f, hf, rfl, rfl⟩ := exists_slot_of_find? hfind
    have hnot {a : f.Content} {r : List Char} : ¬ f.reader.run _ = .ok (a, r) := fun h => by
      rw [Slot.member_run_eq_ok_iff.2 ⟨a, h, rfl⟩] at hrun
      cases hrun
    simp [takesMembers_known_iff hapart hf hnext, hcolon, hnot]
  | case6 d _ _ _ _ hnext _ _ hfind hgiven _ hcolon _ _ hrun _ ih =>
    obtain ⟨f, hf, rfl, rfl⟩ := exists_slot_of_find? hfind
    have hfree : f.get d = none := Option.not_isSome_iff_eq_none.1 hgiven
    obtain ⟨a, ha, rfl⟩ := Slot.member_run_eq_ok_iff.1 hrun
    simp [takesMembers_known_iff hapart hf hnext, hcolon, hfree, ha, ih]
  | case7 _ _ _ _ _ hnext _ hfind _ hcolon =>
    simp [takesMembers_unknown_iff (ne_of_find?_eq_none hfind) hnext, hcolon]
  | case8 _ _ _ _ _ hnext _ hfind _ hcolon _ hskip =>
    simp [takesMembers_unknown_iff (ne_of_find?_eq_none hfind) hnext, hcolon, hskip]
  | case9 _ _ _ _ _ hnext _ hfind _ hcolon _ hskip _ ih =>
    simp [takesMembers_unknown_iff (ne_of_find?_eq_none hfind) hnext, hcolon, hskip, ih]

end Members

/-! ### Lists in place of objects -/

/-- The elements of a list **fill** the slots in their order. Slots that nothing is left for have to
do without, if they can. -/
inductive FillsInOrder : List (Slot σ) → List Value → σ → σ → Prop where
  | done {slots : List (Slot σ)} (d : σ) (h : ∀ f ∈ slots, f.required = false) :
      FillsInOrder slots [] d d
  | next {f : Slot σ} {slots : List (Slot σ)} {v : Value} {vs : List Value} {a : f.Content}
      {d d' : σ} (ha : f.denotes v a) (hrest : FillsInOrder slots vs (f.put a d) d') :
      FillsInOrder (f :: slots) (v :: vs) d d'

private theorem closeList_eq_ok_iff {s r : List Char} :
    closeList s = .ok r ↔ skipSpace s = ']' :: r := by
  unfold closeList
  split
  · next h => simp [h]
  · next h => simp [h]
  · next h => split <;> simp [h]
  · next hbracket _ =>
    simp only [reduceCtorEq, false_iff]
    exact hbracket r

private theorem fillsInOrder_nil_iff {f : Slot σ} {d d' : σ} :
    FillsInOrder (f :: slots) [] d d' ↔ f.required = false ∧ FillsInOrder slots [] d d' := by
  constructor
  · rintro ⟨_, h⟩
    exact ⟨h f List.mem_cons_self, .done _ fun g hg => h g (List.mem_cons_of_mem f hg)⟩
  · rintro ⟨hf, ⟨_, h⟩⟩
    exact .done _ (List.forall_mem_cons.2 ⟨hf, h⟩)

/-- **The elements of a list are read as they fill the slots** in their order. -/
theorem readPositions_eq_ok_iff {wanted : String} {index : Nat} {first : Bool}
    {s r : List Char} {d d' : σ} :
    (∃ t, Record.readPositions wanted (slots.map Slot.member) d index first s = .ok (d', t) ∧
        closeList t = .ok r) ↔
      ∃ vs, SpellsElements first s vs r ∧ FillsInOrder slots vs d d' := by
  induction slots generalizing index first s d with
  | nil =>
    simp only [List.map_nil, Record.readPositions, closeList_eq_ok_iff]
    constructor
    · rintro ⟨_, ⟨⟩, hclose⟩
      exact ⟨[], .close hclose, .done _ (List.forall_mem_nil _)⟩
    · rintro ⟨_, hvs, ⟨_, -⟩⟩
      cases hvs with
      | close hclose => exact ⟨s, rfl, hclose⟩
  | cons f slots ih =>
    simp only [List.map_cons, Record.readPositions]
    split
    · next hnext => simp [not_spellsElements_of_error hnext]
    · next u hnext =>
      obtain ⟨hs, r', rfl⟩ := eq_of_nextElement_done hnext
      have hs' : skipSpace (']' :: r') = ']' :: r' := skipSpace_of_starts rfl
      simp only [spellsElements_close_iff hs]
      split
      · next hrequired =>
        simp only [reduceCtorEq, false_and, exists_false, false_iff]
        rintro ⟨_, ⟨rfl, -⟩, hfills⟩
        have hfree : f.member.required = false := (fillsInOrder_nil_iff.1 hfills).1
        rw [hfree] at hrequired
        cases hrequired
      · next hrequired =>
        have hfree : f.required = false := Bool.eq_false_of_not_eq_true hrequired
        simp only [ih, spellsElements_close_iff hs', and_assoc, exists_eq_left,
          fillsInOrder_nil_iff, hfree, true_and]
    · next hnext =>
      simp only [spellsElements_of_more hnext]
      split
      · next hrun =>
        simp only [reduceCtorEq, false_and, exists_false, false_iff]
        rintro ⟨_, ⟨v, w, vs, rfl, hv, -⟩, hfills⟩
        cases hfills with
        | next ha =>
          rw [Slot.member_run_eq_ok_iff.2 ⟨_, f.recognises.run_iff.2 ⟨v, hv, ha⟩, rfl⟩] at hrun
          cases hrun
      · next put u hrun =>
        obtain ⟨a, ha, rfl⟩ := Slot.member_run_eq_ok_iff.1 hrun
        obtain ⟨v, hv, hva⟩ := f.recognises.run_iff.1 ha
        rw [ih]
        constructor
        · rintro ⟨vs, hvs, hfills⟩
          exact ⟨v :: vs, ⟨v, u, vs, rfl, hv, hvs⟩, .next hva hfills⟩
        · rintro ⟨_, ⟨v', u', vs, rfl, hv', hvs⟩, hfills⟩
          cases hfills with
          | next ha' hfills =>
            have hrun' := f.recognises.run_iff.2 ⟨v', hv', ha'⟩
            rw [ha] at hrun'
            cases hrun'
            exact ⟨vs, hvs, hfills⟩

/-! ### Records -/

/-- The values that a record is read from, and what as. -/
def Record.Denotes {α : Type} (x : Record σ α) (slots : List (Slot σ)) : Value → α → Prop
  | .object ms, a => HasNames ms ∧ ∃ d,
      (∀ f ∈ slots, List.Forall₂ f.denotes (valuesOf ms f.key) (f.get d).toList) ∧
        x.build d = .ok a
  | .list vs, a => ∃ d, FillsInOrder slots vs x.draft d ∧ x.build d = .ok a
  | _, _ => False

theorem Record.denotes_object_iff {α : Type} {x : Record σ α} {ms : List (List Part × Value)}
    {a : α} : x.Denotes slots (.object ms) a ↔ HasNames ms ∧ ∃ d,
      (∀ f ∈ slots, List.Forall₂ f.denotes (valuesOf ms f.key) (f.get d).toList) ∧
        x.build d = .ok a :=
  Iff.rfl

private theorem closeObject_brace (r : List Char) : closeObject ('}' :: r) = .ok r :=
  rfl

section Recognition

variable {α : Type} {x : Record σ α} {s t r : List Char} {a : α}

/-- From its draft, a record takes the members that its slots gain. -/
theorem Record.DescribedBy.takes_iff (h : x.DescribedBy slots) {ms : List (List Part × Value)}
    {d : σ} : Takes slots ms x.draft d ↔ HasNames ms ∧
      ∀ f ∈ slots, List.Forall₂ f.denotes (valuesOf ms f.key) (f.get d).toList := by
  rw [Json.takes_iff h.apart h.ext]
  refine and_congr_right fun _ => forall₂_congr fun f hf => ?_
  simp [Slot.Gains, h.get_draft f hf]

theorem Record.DescribedBy.exists_denotes_object_iff (h : x.DescribedBy slots)
    (hs : skipSpace s = '{' :: t) :
    (∃ v, Spells s v r ∧ x.Denotes slots v a) ↔
      ∃ d, Record.readMembers (slots.map Slot.member) x.draft true t = .ok (d, '}' :: r) ∧
        x.build d = .ok a := by
  simp only [readMembers_eq_ok_iff h.apart, TakesMembers, h.takes_iff, spells_object_iff hs]
  constructor
  · rintro ⟨_, ⟨ms, rfl, hms⟩, hnames, d, hd, ha⟩
    exact ⟨d, ⟨ms, r, rfl, hms, hnames, hd⟩, ha⟩
  · rintro ⟨d, ⟨ms, r', hr, hms, hnames, hd⟩, ha⟩
    cases hr
    exact ⟨_, ⟨ms, rfl, hms⟩, hnames, d, hd, ha⟩

theorem Record.exists_denotes_list_iff (hs : skipSpace s = '[' :: t) :
    (∃ v, Spells s v r ∧ x.Denotes slots v a) ↔
      ∃ d, (∃ u, Record.readPositions x.wantedLength (slots.map Slot.member) x.draft 0 true t =
        .ok (d, u) ∧ closeList u = .ok r) ∧ x.build d = .ok a := by
  simp only [readPositions_eq_ok_iff, spells_list_iff hs]
  constructor
  · rintro ⟨_, ⟨vs, rfl, hvs⟩, d, hd, ha⟩
    exact ⟨d, ⟨vs, hvs, hd⟩, ha⟩
  · rintro ⟨d, ⟨vs, hvs, hd⟩, ha⟩
    exact ⟨_, ⟨vs, rfl, hvs⟩, d, hd, ha⟩

/-- **The reader of a record recognises what its slots denote.** -/
theorem Record.DescribedBy.recognises (h : x.DescribedBy slots) :
    x.reader.Recognises (x.Denotes slots) := by
  refine ⟨fun {s r a} => ?_⟩
  simp only [Record.reader, Record.read, h.members_eq]
  split
  · next hs => simp [not_spells_nil hs]
  · next t hs =>
    rw [h.exists_denotes_object_iff hs]
    split
    · next hread => simp [hread]
    · next d u hread =>
      obtain ⟨ms, r', rfl, -, -⟩ := (readMembers_eq_ok_iff h.apart).1 hread
      simp only [hread, closeObject_brace, Except.ok.injEq, Prod.mk.injEq, List.cons.injEq,
        true_and]
      split
      · next hbuild => simp [hbuild]
      · next b hbuild => simp [hbuild, and_comm]
  · next t hs =>
    rw [Record.exists_denotes_list_iff hs]
    split
    · next hread => simp [hread]
    · next d u hread =>
      simp only [hread, Except.ok.injEq, Prod.mk.injEq]
      split
      · next hbuild => simp [hbuild]
      · next b hbuild =>
        split
        · next hclose => simp [hclose]
        · next hclose => simp [hclose, hbuild, and_comm]
  · next hobject hlist =>
    simp only [reduceCtorEq, false_iff]
    rintro ⟨v, hv, hdenotes⟩
    cases hv with
    | object hs => exact hobject _ hs
    | list hs => exact hlist _ hs
    | _ => exact hdenotes

end Recognition

end Objects

end ProcTrace.Json
