import Mathlib.Data.List.TakeWhile
import ProcTrace.Idna.Label

/-!
# Names that end in a blank

A blank, which is a control or a space, at the end of a name stays there whatever is done with the
name. It is no mark, so that no ordering moves it; it is no part of a composed character, so that no
composing removes it (`Unicode.exists_composed_append`); and it is no digit, so that no encoded
label ends in it (`Punycode.decode_append`). So if a name that ends in a blank has a form in ASCII
at all, the blank is in that form, too (`mem_toAscii_append`).
-/

namespace ProcTrace

/-- A **blank**: a control of ASCII or a space. -/
def IsBlank (c : Char) : Prop :=
  c.toNat ≤ 0x20

/-- What holds of blanks is settled by looking at them. -/
theorem forall_isBlank {p : Char → Prop} (h : ∀ n : Fin 33, p (Char.ofNat n)) {c : Char}
    (hc : IsBlank c) : p c := by
  rw [← Char.ofNat_toNat c]
  exact h ⟨c.toNat, Nat.lt_succ_of_le hc⟩

namespace Unicode

/-- A blank is no mark. -/
private theorem combiningClass_of_isBlank {c : Char} (hc : IsBlank c) : combiningClass c = 0 :=
  forall_isBlank (p := fun c => combiningClass c = 0) (by decide +kernel) hc

/-- Blanks are no part of composed characters, nor are they composed. -/
private theorem lt_of_mem_compositions : ∀ r ∈ compositions, 0x20 < r.2.1 ∧ 0x20 < r.2.2 := by
  decide +kernel

private theorem parts_of_isBlank {c : Char} (hc : IsBlank c) :
    parts partsMax c.toNat = [c.toNat] := by
  have hle : c.toNat ≤ 0x20 := hc
  have hsplit : Hangul.split c.toNat = none := by
    unfold Hangul.split Hangul.syllableBase
    exact if_neg fun h => by omega
  have hfind : compositions.find? (·.2.2 == c.toNat) = none := by
    rw [List.find?_eq_none]
    intro r hr heq
    have hlt := (lt_of_mem_compositions r hr).2
    rw [beq_iff_eq.mp heq] at hlt
    omega
  unfold partsMax parts
  simp only [hsplit, hfind]

/-- A blank joins no character before it. -/
private theorem compose?_of_isBlank {c : Char} (hc : IsBlank c) (n : Nat) :
    compose? n c.toNat = none := by
  have hle : c.toNat ≤ 0x20 := hc
  have hjoin : Hangul.join n c.toNat = none := by
    unfold Hangul.join Hangul.vowelBase Hangul.trailBase
    rw [if_neg fun h => by omega, if_neg fun h => by omega]
  have hfind : compositions.find? (fun r => r.1 == n && r.2.1 == c.toNat) = none := by
    rw [List.find?_eq_none]
    intro r hr heq
    have hlt := (lt_of_mem_compositions r hr).1
    rw [beq_iff_eq.mp (Bool.and_eq_true_iff.mp heq).2] at hlt
    omega
  unfold compose?
  simp only [hjoin, hfind, Option.map_none]

/-- A blank stays behind everything before it. -/
private theorem ordered_append (ns : List Nat) {c : Char} (hc : IsBlank c) :
    ordered (ns ++ [c.toNat]) = ordered ns ++ [(c.toNat, 0)] := by
  have hinsert (acc : List (Nat × Nat)) : insertMark (c.toNat, 0) acc = (c.toNat, 0) :: acc := by
    rcases acc with _ | ⟨x, acc⟩
    · rfl
    · simp [insertMark]
  unfold ordered
  simp only [List.map_append, List.map_cons, List.map_nil, Char.ofNat_toNat,
    combiningClass_of_isBlank hc, List.foldl_append, List.foldl_cons, List.foldl_nil, hinsert,
    List.reverse_cons]

/-- A blank stays at the end when a text is composed. -/
private theorem exists_composeAfter_append {c : Char} (hc : IsBlank c) (starter : Option Nat)
    (marks : List Nat) (last : Nat) (xs : List (Nat × Nat)) :
    ∃ ns, composeAfter starter marks last (xs ++ [(c.toNat, 0)]) = ns ++ [c.toNat] := by
  induction xs generalizing starter marks last with
  | nil =>
    rcases starter with _ | s
    · exact ⟨marks.reverse, by simp [composeAfter]⟩
    · exact ⟨s :: marks.reverse, by simp [composeAfter, compose?_of_isBlank hc]⟩
  | cons x xs ih =>
    -- Every step goes on with the rest, behind what it has written.
    have hbehind (front : List Nat) {starter : Option Nat} {marks : List Nat} {last : Nat} :
        ∃ ns,
          front ++ composeAfter starter marks last (xs ++ [(c.toNat, 0)]) = ns ++ [c.toNat] := by
      obtain ⟨ns, hns⟩ := ih starter marks last
      exact ⟨front ++ ns, by rw [hns, List.append_assoc]⟩
    obtain ⟨n, cls⟩ := x
    rw [List.cons_append]
    rcases starter with _ | s
    · unfold composeAfter
      split_ifs
      · exact hbehind marks.reverse
      · exact ih none (n :: marks) last
    · unfold composeAfter
      split
      · exact ih _ marks last
      · split_ifs
        · exact hbehind (s :: marks.reverse)
        · exact ih (some s) (n :: marks) cls

/-- **The normal form of a text that ends in a blank ends in it, too.** -/
theorem exists_composed_append (cs : List Char) {c : Char} (hc : IsBlank c) :
    ∃ ds, composed (cs ++ [c]) = ds ++ [c] := by
  unfold composed
  simp only [List.flatMap_append, List.flatMap_singleton, parts_of_isBlank hc, ordered_append _ hc]
  obtain ⟨ns, hns⟩ := exists_composeAfter_append hc none [] 0
    (ordered (cs.flatMap fun c => parts partsMax c.toNat))
  exact ⟨ns.map Char.ofNat, by rw [hns, List.map_append, List.map_singleton, Char.ofNat_toNat]⟩

end Unicode

namespace Idna

/-! ### Encoded labels -/

namespace Punycode

private theorem digit?_of_isBlank {c : Char} (hc : IsBlank c) : digit? c = none :=
  forall_isBlank (p := fun c => digit? c = none) (by decide) hc

/-- A blank is behind every number. -/
private theorem exists_of_readNumber_append {c : Char} (hc : IsBlank c) {bias k weight n m : Nat}
    {s r : List Char} (h : readNumber bias k weight n (s ++ [c]) = some (m, r)) :
    ∃ r', r = r' ++ [c] ∧ r'.length < s.length := by
  induction s generalizing k weight n with
  | nil => simp [readNumber, digit?_of_isBlank hc] at h
  | cons d s ih =>
    rw [List.cons_append, readNumber] at h
    split at h
    · cases h
    · dsimp only at h
      split_ifs at h
      · obtain ⟨-, rfl⟩ := Prod.mk.inj (Option.some.inj h)
        exact ⟨s, rfl, Nat.lt_succ_self _⟩
      · obtain ⟨r', hr', hlength⟩ := ih h
        exact ⟨r', hr', Nat.lt_succ_of_lt hlength⟩

/-- No sequence of numbers ends in a blank. -/
private theorem insertAll_append {c : Char} (hc : IsBlank c) (label : List Char) (n i bias : Nat)
    (s : List Char) : insertAll label n i bias (s ++ [c]) = none := by
  induction hlength : s.length using Nat.strongRecOn generalizing label n i bias s with
  | _ length ih =>
    rw [insertAll, if_neg (by simp)]
    split
    · rfl
    · next j r hread =>
      obtain ⟨r', rfl, hshorter⟩ := exists_of_readNumber_append hc hread
      dsimp only
      split_ifs
      · exact ih r'.length (hlength ▸ hshorter) _ _ _ _ _ rfl
      · rfl

/-- **No encoded label ends in a blank.** -/
theorem decode_append {c : Char} (hc : IsBlank c) (s : List Char) : decode (s ++ [c]) = none := by
  have hhyphen : c ≠ '-' := forall_isBlank (p := fun c => c ≠ '-') (by decide) hc
  unfold decode
  rw [List.reverse_append, List.reverse_singleton, List.singleton_append,
    List.dropWhile_cons_of_pos (by simpa using hhyphen)]
  split
  · exact insertAll_append hc ..
  · next hyphen front hfront =>
    have hlength : front.length + 1 ≤ s.length := by
      have hsub := (List.dropWhile_sublist (l := s.reverse) (· ≠ '-')).length_le
      rw [hfront] at hsub
      simpa using hsub
    split_ifs
    · rw [List.drop_append_of_le_length hlength]
      exact insertAll_append hc ..
    · rfl

end Punycode

/-! ### Labels and names -/

variable {c : Char}

/-- A folded text ends in the blank that the text ends in. -/
private theorem exists_fold_append (hc : IsBlank c) (cs : List Char) :
    ∃ ds, fold (cs ++ [c]) = ds ++ [c] := by
  have hlower : c.toNat < 0x80 ∧ c.toLower = c :=
    forall_isBlank (p := fun c => c.toNat < 0x80 ∧ c.toLower = c) (by decide) hc
  unfold fold
  rw [List.flatMap_append, List.flatMap_singleton, if_pos hlower.1, hlower.2]
  exact Unicode.exists_composed_append _ hc

/-- A label that ends in a blank stands for itself, or for nothing. -/
private theorem unwrap_append (hc : IsBlank c) {l x : List Char} (h : unwrap (l ++ [c]) = some x) :
    x = l ++ [c] := by
  have hhyphen : c ≠ '-' := forall_isBlank (p := fun c => c ≠ '-') (by decide) hc
  unfold unwrap at h
  split_ifs at h with hmark
  · -- The mark of the encoded labels does not reach to the blank.
    have hlength : encodedMark.length ≤ l.length := by
      have hprefix := List.isPrefixOf_iff_prefix.mp hmark
      by_contra hlt
      have hwhole : encodedMark = l ++ [c] := by
        refine hprefix.eq_of_length_le ?_
        rw [List.length_append, List.length_singleton]
        omega
      have hlast := congrArg List.getLast? hwhole
      rw [List.getLast?_concat] at hlast
      exact hhyphen (Option.some.inj hlast).symm
    rw [List.drop_append_of_le_length hlength, Punycode.decode_append hc] at h
    cases h
  · exact (Option.some.inj h).symm

/-- A label is sent with the blank that it ends in. -/
private theorem mem_wrap_append (hc : IsBlank c) (l : List Char) : c ∈ wrap (l ++ [c]) := by
  have hascii : c.toNat < 0x80 := Nat.lt_of_le_of_lt hc (by decide)
  unfold wrap
  split_ifs
  · simp
  · unfold Punycode.encode
    simp [hascii]

/-- A blank at the end is in the last label. -/
private theorem exists_splitOn_append (hc : IsBlank c) (cs : List Char) :
    ∃ init l, (cs ++ [c]).splitOn '.' = init ++ [l ++ [c]] := by
  have hdot : (c == '.') = false :=
    forall_isBlank (p := fun c => (c == '.') = false) (by decide) hc
  induction cs with
  | nil =>
    refine ⟨[], [], ?_⟩
    rw [List.nil_append, List.splitOn_cons_eq_if_modifyHead, hdot]
    rfl
  | cons d cs ih =>
    obtain ⟨init, l, hsplit⟩ := ih
    rw [List.cons_append, List.splitOn_cons_eq_if_modifyHead, hsplit]
    split_ifs
    · exact ⟨[] :: init, l, rfl⟩
    · rcases init with _ | ⟨first, init⟩
      · exact ⟨[], d :: l, rfl⟩
      · exact ⟨(d :: first) :: init, l, rfl⟩

/-- What is in a text is in everything that it is joined to. -/
private theorem mem_intercalate {d : Char} {sep x : List Char} {xs : List (List Char)} (hd : d ∈ x)
    (hx : x ∈ xs) : d ∈ sep.intercalate xs := by
  induction xs with
  | nil => cases hx
  | cons y ys ih =>
    rcases ys with _ | ⟨z, zs⟩
    · rw [List.intercalate_singleton, ← List.mem_singleton.mp hx]
      exact hd
    · rw [List.intercalate_cons_cons]
      obtain rfl | hx := List.mem_cons.mp hx
      · exact List.mem_append_left _ (List.mem_append_left _ hd)
      · exact List.mem_append_right _ (ih hx)

/-- **The form in ASCII of a name that ends in a blank has the blank in it.** -/
theorem mem_toAscii_append (hc : IsBlank c) {domain name : List Char}
    (h : toAscii (domain ++ [c]) = some name) : c ∈ name := by
  obtain ⟨ds, hfold⟩ := exists_fold_append hc domain
  obtain ⟨init, l, hsplit⟩ := exists_splitOn_append hc ds
  unfold toAscii at h
  rw [hfold, hsplit, Option.bind_eq_bind, Option.bind_eq_some_iff] at h
  obtain ⟨labels, hlabels, h⟩ := h
  have hmem : l ++ [c] ∈ labels := by
    rw [List.mapM_append, Option.bind_eq_bind, Option.bind_eq_some_iff] at hlabels
    obtain ⟨front, -, hback⟩ := hlabels
    rw [List.mapM_cons, List.mapM_nil] at hback
    simp only [Option.pure_def, Option.bind_eq_bind, Option.bind_eq_some_iff,
      Option.some.injEq] at hback
    obtain ⟨_, ⟨x, hx, _, rfl, rfl⟩, rfl⟩ := hback
    rw [unwrap_append hc hx]
    simp
  split_ifs at h
  rw [← Option.some.inj h]
  exact mem_intercalate (mem_wrap_append hc l) (List.mem_map_of_mem hmem)

end Idna

end ProcTrace
