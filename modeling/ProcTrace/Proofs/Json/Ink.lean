import ProcTrace.Proofs.Json.Recognition
import ProcTrace.Text.Blank

/-!
# Ink

The **ink** of a text is how many of its characters are not blank. To trim a text costs no ink. But
to write characters as a text of JSON takes more ink than they have themselves, for the quotes
around them. So no text that occurs in a JSON text has the same characters as the whole of it,
trimmed or not: its ink tells them apart.
-/

namespace ProcTrace

namespace Text

/-- How many characters are not blank. -/
def ink (cs : List Char) : Nat :=
  cs.countP (!isBlank ·)

private theorem ink_cons (c : Char) (cs : List Char) : ink (c :: cs) = ink [c] + ink cs := by
  rw [← List.singleton_append, ink, List.countP_append, ink, ink]

private theorem ink_singleton_le (c : Char) : ink [c] ≤ 1 :=
  List.countP_le_length

private theorem ink_le_of_suffix {r s : List Char} (h : r <:+ s) : ink r ≤ ink s :=
  h.sublist.countP_le

private theorem ink_dropWhile (cs : List Char) : ink (cs.dropWhile isBlank) = ink cs := by
  induction cs with
  | nil => rfl
  | cons c cs ih =>
    by_cases hc : isBlank c = true
    · rw [List.dropWhile_cons_of_pos hc, ih, ink, ink, List.countP_cons_of_neg (by simp [hc])]
    · rw [List.dropWhile_cons_of_neg hc]

/-- Only blanks are trimmed. -/
theorem ink_trim (cs : List Char) : ink (trim cs) = ink cs := by
  have hreverse (cs : List Char) : ink cs.reverse = ink cs := List.countP_reverse
  rw [trim, trimBack, hreverse, ink_dropWhile, hreverse, trimFront, ink_dropWhile]

end Text

namespace Json

open Text (ink ink_cons ink_singleton_le ink_le_of_suffix)

variable {s t r : List Char} {v : Value}

/-! ### What follows is a rest of the text -/

private theorem skipSpace_suffix (s : List Char) : skipSpace s <:+ s :=
  List.dropWhile_suffix isSpace

private theorem suffix_of_skipSpace_eq (l : List Char) (h : skipSpace s = l ++ r) : r <:+ s :=
  (h ▸ List.suffix_append l r).trans (skipSpace_suffix s)

theorem SpellsUnit.suffix {n : Nat} (h : SpellsUnit s n r) : r <:+ s := by
  obtain ⟨-, -, -, -⟩ := h
  exact List.suffix_append [_, _, _, _] r

theorem SpellsPart.suffix {p : Part} (h : SpellsPart s p r) : r <:+ s := by
  cases h with
  | plain => exact List.suffix_cons _ r
  | short => exact List.suffix_append [_, _] r
  | unit h => exact h.suffix.trans (List.suffix_append [_, _] _)

theorem SpellsText.suffix {ps : List Part} (h : SpellsText s ps r) : r <:+ s := by
  induction h with
  | close => exact List.suffix_cons _ _
  | more hp _ ih => exact ih.trans hp.suffix

theorem SpellsKey.suffix {k : List Part} (h : SpellsKey s k r) : r <:+ s := by
  obtain ⟨h, hk, hcolon⟩ := h
  exact (suffix_of_skipSpace_eq [':'] hcolon).trans
    (hk.suffix.trans (suffix_of_skipSpace_eq ['"'] h))

mutual

/-- **What follows a value is a rest of the text.** -/
theorem Spells.suffix {s r : List Char} {v : Value} (h : Spells s v r) : r <:+ s := by
  cases h with
  | null h => exact suffix_of_skipSpace_eq ['n', 'u', 'l', 'l'] h
  | true h => exact suffix_of_skipSpace_eq ['t', 'r', 'u', 'e'] h
  | false h => exact suffix_of_skipSpace_eq ['f', 'a', 'l', 's', 'e'] h
  | number h => exact h.suffix.trans (skipSpace_suffix s)
  | text h hps => exact hps.suffix.trans (suffix_of_skipSpace_eq ['"'] h)
  | list h hvs => exact hvs.suffix.trans (suffix_of_skipSpace_eq ['['] h)
  | object h hms => exact hms.suffix.trans (suffix_of_skipSpace_eq ['{'] h)

theorem SpellsElements.suffix {first : Bool} {s r : List Char} {vs : List Value}
    (h : SpellsElements first s vs r) : r <:+ s := by
  cases h with
  | close h => exact suffix_of_skipSpace_eq [']'] h
  | first hv hvs => exact hvs.suffix.trans hv.suffix
  | next h hv hvs =>
    exact hvs.suffix.trans (hv.suffix.trans (suffix_of_skipSpace_eq [','] h))

theorem SpellsMembers.suffix {first : Bool} {s r : List Char} {ms : List (List Part × Value)}
    (h : SpellsMembers first s ms r) : r <:+ s := by
  cases h with
  | close h => exact suffix_of_skipSpace_eq ['}'] h
  | first hk hv hms => exact hms.suffix.trans (hv.suffix.trans hk.suffix)
  | next h hk hv hms =>
    exact hms.suffix.trans
      (hv.suffix.trans (hk.suffix.trans (suffix_of_skipSpace_eq [','] h)))

end

/-! ### The ink of texts in quotes -/

/-- The least ink that it takes to write a part, and the most that it gives. -/
def Part.ink : Part → Nat
  | .char c => Text.ink [c]
  | .unit _ => 1

theorem SpellsPart.ink_le {p : Part} (h : SpellsPart s p r) : p.ink + ink r ≤ ink s := by
  have hslash (s : List Char) : ink ('\\' :: s) = 1 + ink s := ink_cons '\\' s
  cases h with
  | plain => rw [ink_cons _ r, Part.ink]
  | @short c d _ h =>
    have hd : (Part.char d).ink ≤ 1 := ink_singleton_le d
    have hr : ink r ≤ ink (c :: r) := ink_le_of_suffix (List.suffix_cons c r)
    rw [hslash]
    exact Nat.add_le_add hd hr
  | @unit t _ n h =>
    have hr : ink r ≤ ink ('u' :: t) := ink_le_of_suffix (h.suffix.trans (List.suffix_cons 'u' t))
    rw [hslash]
    exact Nat.add_le_add_left hr 1

/-- The quote after a text is ink, too. -/
theorem SpellsText.ink_lt {ps : List Part} (h : SpellsText s ps r) :
    (ps.map Part.ink).sum + ink r < ink s := by
  induction h with
  | @close r =>
    have hquote : ink ('"' :: r) = 1 + ink r := ink_cons '"' r
    simp [hquote]
  | more hp _ ih =>
    have := hp.ink_le
    simp only [List.map_cons, List.sum_cons]
    omega

/-- Two units may make one character, but no unit makes two. -/
private theorem ink_le_of_decode {ps : List Part} {cs : List Char} (h : decode ps = some cs) :
    ink cs ≤ (ps.map Part.ink).sum := by
  fun_induction decode ps generalizing cs with
  | case1 =>
    cases h
    exact Nat.zero_le _
  | case2 c ps ih =>
    obtain ⟨cs, hcs, rfl⟩ := Option.map_eq_some_iff.1 h
    rw [ink_cons]
    exact Nat.add_le_add_left (ih hcs) _
  | case4 n _ _ m _ _ ih =>
    obtain ⟨cs, hcs, rfl⟩ := Option.map_eq_some_iff.1 h
    rw [ink_cons]
    exact Nat.add_le_add (ink_singleton_le _) (Nat.le_add_left_of_le (ih hcs))
  | case7 n _ _ _ ih =>
    obtain ⟨cs, hcs, rfl⟩ := Option.map_eq_some_iff.1 h
    rw [ink_cons]
    exact Nat.add_le_add (ink_singleton_le _) (ih hcs)
  | _ => cases h

/-- It takes more ink to write a text in quotes than its characters have. -/
theorem Spells.ink_lt {cs : List Char} (h : Spells s v r) (hcs : IsText v cs) :
    ink cs < ink s := by
  obtain ⟨ps, rfl, hps⟩ := hcs
  cases h with
  | @text _ t _ _ h hspells =>
    calc
      ink cs ≤ (ps.map Part.ink).sum := ink_le_of_decode hps
      _ ≤ (ps.map Part.ink).sum + ink r := Nat.le_add_right _ _
      _ < ink t := hspells.ink_lt
      _ ≤ ink s := ink_le_of_suffix (suffix_of_skipSpace_eq ['"'] h)

/-! ### Texts inside of lists and objects -/

/-- The value is spelled somewhere in the text. -/
def Value.IsWithin (v : Value) (s : List Char) : Prop :=
  ∃ t r, t <:+ s ∧ Spells t v r

theorem Spells.isWithin (h : Spells s v r) : v.IsWithin s :=
  ⟨s, r, List.suffix_rfl, h⟩

theorem Value.IsWithin.of_suffix (h : v.IsWithin t) (ht : t <:+ s) : v.IsWithin s := by
  obtain ⟨u, r, hu, hv⟩ := h
  exact ⟨u, r, hu.trans ht, hv⟩

theorem Value.IsWithin.ink_lt {cs : List Char} (h : v.IsWithin s) (hcs : IsText v cs) :
    ink cs < ink s := by
  obtain ⟨t, r, ht, hv⟩ := h
  exact Nat.lt_of_lt_of_le (hv.ink_lt hcs) (ink_le_of_suffix ht)

theorem SpellsElements.isWithin {first : Bool} {vs : List Value}
    (h : SpellsElements first s vs r) (hv : v ∈ vs) : v.IsWithin s := by
  induction vs generalizing first s with
  | nil => cases hv
  | cons v' vs ih =>
    cases h with
    | first hv' hvs =>
      cases hv with
      | head => exact hv'.isWithin
      | tail _ hv => exact (ih hvs hv).of_suffix hv'.suffix
    | next h hv' hvs =>
      have ht := suffix_of_skipSpace_eq [','] h
      cases hv with
      | head => exact hv'.isWithin.of_suffix ht
      | tail _ hv => exact (ih hvs hv).of_suffix (hv'.suffix.trans ht)

theorem SpellsMembers.isWithin {first : Bool} {ms : List (List Part × Value)} {k : List Part}
    (h : SpellsMembers first s ms r) (hv : (k, v) ∈ ms) : v.IsWithin s := by
  induction ms generalizing first s with
  | nil => cases hv
  | cons m ms ih =>
    cases h with
    | first hk hv' hms =>
      cases hv with
      | head => exact hv'.isWithin.of_suffix hk.suffix
      | tail _ hv => exact (ih hms hv).of_suffix (hv'.suffix.trans hk.suffix)
    | next h hk hv' hms =>
      have hu := hk.suffix.trans (suffix_of_skipSpace_eq [','] h)
      cases hv with
      | head => exact hv'.isWithin.of_suffix hu
      | tail _ hv => exact (ih hms hv).of_suffix (hv'.suffix.trans hu)

/-- **The elements of a list are spelled in its text.** -/
theorem IsTextOf.isWithin_of_element {whole : List Char} {vs : List Value}
    (h : IsTextOf whole (.list vs)) (hv : v ∈ vs) : v.IsWithin whole := by
  obtain ⟨r, hlist, -⟩ := h
  cases hlist with
  | list h hvs => exact (hvs.isWithin hv).of_suffix (suffix_of_skipSpace_eq ['['] h)

/-- **The values of an object are spelled in its text.** -/
theorem IsTextOf.isWithin_of_member {whole : List Char} {ms : List (List Part × Value)}
    {k : List Part} (h : IsTextOf whole (.object ms)) (hv : (k, v) ∈ ms) : v.IsWithin whole := by
  obtain ⟨r, hobject, -⟩ := h
  cases hobject with
  | object h hms => exact (hms.isWithin hv).of_suffix (suffix_of_skipSpace_eq ['{'] h)

end Json

end ProcTrace
