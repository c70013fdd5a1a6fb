import Mathlib.Data.List.TakeWhile
import ProcTrace.Url.Parse

/-!
# URLs with segments at their end

A client makes its URLs by writing path segments after a base. What becomes of the base when such a
text is parsed is a long story: blanks go, dots lead back, and what looks like a host may be none.
What becomes of the last of two segments is told here. If the segments consist of letters and digits
and the base has no fragment, then a URL of the web ends in a slash and that segment, be it in the
path or in the query (`parse_appended`).
-/

namespace ProcTrace.Url

/-! ### Characters that stay as they are -/

/-- A letter, a digit or a slash: every part of a URL has it as it is. -/
def isKept (c : Char) : Bool :=
  c.isAlphanum || c = '/'

/-- What holds of such characters is settled by looking at ASCII. -/
private theorem forall_isKept {p : Char → Prop}
    (h : ∀ n : Fin 128, isKept (Char.ofNat n) → p (Char.ofNat n))
    {c : Char} (hc : isKept c) : p c := by
  have hranges : isKept c =
      (((decide (c.val ≥ 'A'.val ∧ c.val ≤ 'Z'.val) || c.val ≥ 'a'.val && c.val ≤ 'z'.val) ||
        c.val ≥ '0'.val && c.val ≤ '9'.val) || c = '/') := rfl
  have hlt : c.toNat < 128 := by
    simp only [hranges, Bool.or_eq_true, Bool.and_eq_true, decide_eq_true_eq, ge_iff_le,
      UInt32.le_iff_toNat_le] at hc
    rcases hc with ((⟨-, h⟩ | ⟨-, h⟩) | ⟨-, h⟩) | rfl
    · exact Nat.lt_of_le_of_lt h (by decide)
    · exact Nat.lt_of_le_of_lt h (by decide)
    · exact Nat.lt_of_le_of_lt h (by decide)
    · decide
  rw [← Char.ofNat_toNat c] at hc ⊢
  exact h ⟨c.toNat, hlt⟩ hc

/-- Such a character is no blank. -/
private theorem not_blank_of_isKept {c : Char} (h : isKept c) : ¬ c.toNat ≤ 0x20 :=
  forall_isKept (p := fun c => ¬ c.toNat ≤ 0x20) (by decide) h

/-- Nor does it separate like a slash without being one. -/
private theorem ne_backslash_of_isKept {c : Char} (h : isKept c) : c ≠ '\\' := by
  rintro rfl
  exact absurd h (by decide)

/-- No part of a URL escapes it. -/
private theorem not_escaped_of_isKept {c : Char} (h : isKept c) :
    escapedInPath c = false ∧ escapedInSpecialQuery c = false :=
  forall_isKept (p := fun c => escapedInPath c = false ∧ escapedInSpecialQuery c = false)
    (by decide) h

/-- It is no part of a dot in any spelling. -/
private theorem not_dot_of_isKept {c : Char} (h : isKept c) : c.toLower ≠ '.' ∧ c.toLower ≠ '%' :=
  forall_isKept (p := fun c => c.toLower ≠ '.' ∧ c.toLower ≠ '%') (by decide) h

/-- A **plain segment**: letters and digits, at least one. -/
structure IsPlain (d : List Char) : Prop where
  ne_nil : d ≠ []
  alphanum : ∀ c ∈ d, c.isAlphanum

theorem IsPlain.isKept {d : List Char} (h : IsPlain d) : ∀ c ∈ d, isKept c := by
  intro c hc
  simp [Url.isKept, h.alphanum c hc]

theorem IsPlain.not_slash {d : List Char} (h : IsPlain d) : ∀ c ∈ d, c ≠ '/' := by
  rintro c hc rfl
  exact absurd (h.alphanum _ hc) (by decide)

/-! ### Taking a text apart -/

/-- Nothing is dropped from a text whose first character may not be dropped. -/
private theorem dropWhile_of_head {p : Char → Bool} {s : List Char}
    (h : ∀ c ∈ s.head?, p c = false) :
    s.dropWhile p = s := by
  cases s with
  | nil => rfl
  | cons c s => simp [h c rfl]

/-- From a text whose end may not be dropped, what is dropped is dropped in front of the end. -/
private theorem dropWhile_append_of_head {p : Char → Bool} {s : List Char}
    (h : ∀ c ∈ s.head?, p c = false) (xs : List Char) :
    (xs ++ s).dropWhile p = xs.dropWhile p ++ s := by
  rw [List.dropWhile_append, dropWhile_of_head h]
  split
  · next hempty => rw [List.isEmpty_iff.mp hempty, List.nil_append]
  · rfl

/-- What tidying leaves of a text in front of characters that are kept. -/
def tidyFront (cs : List Char) : List Char :=
  (cs.dropWhile fun c => c.toNat ≤ 0x20).filter fun c => !(c = '\t' || c = '\n' || c = '\r')

theorem tidyFront_subset (cs : List Char) : tidyFront cs ⊆ cs := fun _ hc =>
  (List.dropWhile_sublist _).subset (List.mem_filter.mp hc).1

/-- The end of a text stays when the text is tidied. -/
theorem tidy_append {s : List Char} (hs : s ≠ []) (hkept : ∀ c ∈ s, isKept c) (xs : List Char) :
    tidy (xs ++ s) = tidyFront xs ++ s := by
  have hblank : ∀ c ∈ s, decide (c.toNat ≤ 0x20) = false := fun c hc =>
    decide_eq_false (not_blank_of_isKept (hkept c hc))
  have hfront (c : Char) (hc : c ∈ s.head?) : decide (c.toNat ≤ 0x20) = false :=
    hblank c (List.mem_of_mem_head? hc)
  have hback (ys : List Char) (c : Char) (hc : c ∈ (ys ++ s).reverse.head?) :
      decide (c.toNat ≤ 0x20) = false := by
    cases hr : s.reverse with
    | nil => exact absurd (List.reverse_eq_nil_iff.mp hr) hs
    | cons d r =>
      have hd : d = c := by simpa [hr] using hc
      exact hblank c (List.mem_reverse.mp (by simp [hr, hd]))
  have hbreak : s.filter (fun c => !(c = '\t' || c = '\n' || c = '\r')) = s := by
    rw [List.filter_eq_self]
    intro c hc
    have hne := not_blank_of_isKept (hkept c hc)
    simp only [Bool.not_eq_true', Bool.or_eq_false_iff, decide_eq_false_iff_not]
    refine ⟨⟨?_, ?_⟩, ?_⟩ <;> rintro rfl <;> exact hne (by decide)
  rw [tidy, dropWhile_append_of_head hfront, dropWhile_of_head (hback _), List.reverse_reverse,
    List.filter_append, hbreak, tidyFront]

/-- Without the mark a text is not cut. -/
theorem cut_of_notMem {mark : Char} {xs : List Char} (h : mark ∉ xs) :
    cut mark xs = (xs, none) := by
  have hdrop : xs.dropWhile (· ≠ mark) = [] := by
    rw [List.dropWhile_eq_nil_iff]
    intro c hc
    exact decide_eq_true fun heq => h (heq ▸ hc)
  rw [cut, hdrop]

/-- A text is cut at the first mark. -/
theorem cut_append_cons {mark : Char} {a : List Char} (h : mark ∉ a) (r : List Char) :
    cut mark (a ++ mark :: r) = (a, some r) := by
  have hpos : ∀ c ∈ a, decide (c ≠ mark) = true := fun c hc =>
    decide_eq_true fun heq => h (heq ▸ hc)
  rw [cut, List.dropWhile_append_of_pos hpos, List.takeWhile_append_of_pos hpos]
  simp

/-- A text is cut at the last mark. -/
theorem cutLast_append_cons {mark : Char} {r : List Char} (h : mark ∉ r) (a : List Char) :
    cutLast mark (a ++ mark :: r) = some (a, r) := by
  have hreverse : (a ++ mark :: r).reverse = r.reverse ++ mark :: a.reverse := by simp
  rw [cutLast, hreverse, cut_append_cons (fun hmem => h (List.mem_reverse.mp hmem))]
  simp only [List.reverse_reverse]

/-- A plain segment alone is not separated, whichever characters count as slashes. -/
theorem splitSegments_plain {d : List Char} (hd : IsPlain d) (special : Bool) :
    splitSegments special d = [d] := by
  have hmap : d.map (fun c => if isSlash special c then '/' else c) = d := by
    rw [List.map_congr_left (g := id), List.map_id]
    intro c hc
    simp [isSlash, hd.not_slash c hc, ne_backslash_of_isKept (hd.isKept c hc)]
  rw [splitSegments, hmap]
  exact List.splitOnP_eq_singleton fun c hc => by simpa using hd.not_slash c hc

/-- A plain segment after a slash is the last one. -/
theorem splitSegments_append {d : List Char} (hd : IsPlain d) (special : Bool) (xs : List Char) :
    splitSegments special (xs ++ '/' :: d) = splitSegments special xs ++ [d] := by
  have hslash : (if isSlash special '/' then '/' else '/') = '/' := ite_self _
  have hplain := splitSegments_plain hd special
  rw [splitSegments, List.splitOn] at hplain
  rw [splitSegments, List.map_append, List.map_cons, hslash, List.splitOn,
    List.splitOnP_append_cons _ _ (by rfl), hplain]
  rfl

/-- A plain segment is no dot in any spelling. -/
theorem IsPlain.not_dots {d : List Char} (hd : IsPlain d) :
    isSingleDot d = false ∧ isDoubleDot d = false := by
  obtain ⟨c, r, rfl⟩ : ∃ c r, d = c :: r := List.exists_cons_of_ne_nil hd.ne_nil
  obtain ⟨hdot, hpercent⟩ := not_dot_of_isKept (hd.isKept c (by simp))
  simp [isSingleDot, isDoubleDot, dotForms, hdot, hpercent]

/-- A walk through plain segments keeps them all. -/
theorem walk_plain {scheme : List Char} (hscheme : scheme ≠ "file".toList) {ds : List (List Char)}
    (hds : ∀ d ∈ ds, IsPlain d) (done : List (List Char)) :
    walk scheme done ds = done ++ ds := by
  induction ds generalizing done with
  | nil => rw [walk, List.append_nil]
  | cons d ds ih =>
    obtain ⟨hd, hds⟩ := List.forall_mem_cons.mp hds
    obtain ⟨hsingle, hdouble⟩ := hd.not_dots
    have hplain : percentEncode escapedInPath d = d :=
      percentEncode_of_plain fun c hc => (not_escaped_of_isKept (hd.isKept c hc)).1
    rw [walk, if_neg (by simp [hdouble]), if_neg (by simp [hsingle]),
      if_neg (by simp only [decide_eq_false hscheme, Bool.false_and, Bool.false_eq_true,
        not_false_eq_true]), hplain, ih hds, List.append_assoc, List.singleton_append]

/-- Plain segments at the end of a walk are kept, behind what the walk has come to before them. -/
theorem exists_walk_append {scheme : List Char} (hscheme : scheme ≠ "file".toList)
    (ss done : List (List Char)) :
    ∃ ts, ∀ ds, ds ≠ [] → (∀ d ∈ ds, IsPlain d) → walk scheme done (ss ++ ds) = ts ++ ds := by
  induction ss generalizing done with
  | nil => exact ⟨done, fun ds _ hds => walk_plain hscheme hds done⟩
  | cons s ss ih =>
    -- What is done with a segment that is not the last one does not depend on those after it.
    obtain ⟨next, hnext⟩ : ∃ next, ∀ rest, rest ≠ [] →
        walk scheme done (s :: rest) = walk scheme next rest := by
      by_cases hdouble : isDoubleDot s
      · exact ⟨pop scheme done, fun rest hrest => by simp [walk, hdouble, hrest]⟩
      · by_cases hsingle : isSingleDot s
        · exact ⟨done, fun rest hrest => by simp [walk, hdouble, hsingle, hrest]⟩
        · refine ⟨done ++ [percentEncode escapedInPath s], fun rest _ => ?_⟩
          rw [walk, if_neg hdouble, if_neg hsingle,
            if_neg (by simp only [decide_eq_false hscheme, Bool.false_and, Bool.false_eq_true,
              not_false_eq_true])]
    obtain ⟨ts, hts⟩ := ih next
    refine ⟨ts, fun ds hne hds => ?_⟩
    rw [List.cons_append, hnext _ (List.append_ne_nil_of_right_ne_nil ss hne)]
    exact hts ds hne hds

/-! ### The end of a URL -/

variable {scheme : List Char}

/-- A plain segment after a slash is the last one of the path. -/
private theorem parsePath_append (hspecial : isSpecial scheme) (hscheme : scheme ≠ "file".toList)
    {d : List Char} (hd : IsPlain d) {xs : List Char} (hxs : ∀ c ∈ xs.head?, isSlash true c) :
    ∃ ts, parsePath scheme [] (xs ++ '/' :: d) = .segments (ts ++ [d]) := by
  have hbody : ∃ ss, parsePath scheme [] (xs ++ '/' :: d) =
      .segments (walk scheme [] (ss ++ [d])) := by
    cases xs with
    | nil =>
      refine ⟨[], ?_⟩
      simp only [parsePath, trimSegments, if_neg hscheme, List.nil_append]
      simp [isSlash, splitSegments_plain hd]
    | cons c xs =>
      refine ⟨splitSegments true xs, ?_⟩
      simp only [parsePath, trimSegments, if_neg hscheme, List.cons_append, hspecial, hxs c rfl]
      simp [splitSegments_append hd]
  obtain ⟨ss, hss⟩ := hbody
  obtain ⟨ts, hts⟩ := exists_walk_append hscheme ss []
  exact ⟨ts, by rw [hss, hts [d] (List.cons_ne_nil _ _) (List.forall_mem_singleton.mpr hd)]⟩

/-- The path of a text that starts with an authority and ends in a plain segment. -/
private theorem parseFromAuthority_append (hspecial : isSpecial scheme)
    (hscheme : scheme ≠ "file".toList)
    {d : List Char} (hd : IsPlain d) {xs : List Char} {a : Authority} {p : Path}
    (h : parseFromAuthority scheme (xs ++ '/' :: d) = some (a, p)) :
    ∃ ts, p = .segments (ts ++ [d]) := by
  have hdrop : (xs ++ '/' :: d).dropWhile (!isSlash true ·) =
      xs.dropWhile (!isSlash true ·) ++ '/' :: d :=
    dropWhile_append_of_head (by simp [isSlash]) xs
  have hhead : ∀ c ∈ (xs.dropWhile (!isSlash true ·)).head?, isSlash true c := by
    intro c hc
    have hnot := List.head?_dropWhile_not (!isSlash true ·) xs
    rw [hc] at hnot
    simpa using hnot
  obtain ⟨ts, hts⟩ := parsePath_append hspecial hscheme hd hhead
  simp only [parseFromAuthority, hspecial, hdrop, hts, Option.bind_eq_bind,
    Option.bind_eq_some_iff, Option.some.injEq, Prod.mk.injEq] at h
  obtain ⟨_, -, -, rfl⟩ := h
  exact ⟨ts, rfl⟩

/-- What a URL has of the text that it is made from: the scheme, the query and the fragment. -/
theorem parseAbsolute_parts {cs : List Char} {query fragment : Option (List Char)} {u : Url}
    (h : parseAbsolute scheme cs query fragment = some u) :
    u.scheme = scheme ∧ u.query = parseQuery scheme query ∧
      u.fragment = parseFragment fragment := by
  unfold parseAbsolute at h
  split at h
  · simp only [Option.bind_eq_bind, Option.bind_eq_some_iff, Option.some.injEq] at h
    obtain ⟨_, -, rfl⟩ := h
    exact ⟨rfl, rfl, rfl⟩
  · split at h
    · simp only [Option.bind_eq_bind, Option.bind_eq_some_iff, Option.some.injEq] at h
      obtain ⟨_, -, rfl⟩ := h
      exact ⟨rfl, rfl, rfl⟩
    · split at h
      · simp only [Option.bind_eq_bind, Option.bind_eq_some_iff, Option.some.injEq] at h
        obtain ⟨_, -, rfl⟩ := h
        exact ⟨rfl, rfl, rfl⟩
      · obtain rfl := Option.some.inj h
        exact ⟨rfl, rfl, rfl⟩
      · obtain rfl := Option.some.inj h
        exact ⟨rfl, rfl, rfl⟩

/-- The path of a text that has had its scheme taken off and ends in two plain segments. The first
of them keeps the second from being taken for a host. -/
private theorem parseAbsolute_append (hspecial : isSpecial scheme)
    (hscheme : scheme ≠ "file".toList)
    {m d : List Char} (hm : IsPlain m) (hd : IsPlain d) {xs : List Char}
    {query fragment : Option (List Char)} {u : Url}
    (h : parseAbsolute scheme (xs ++ '/' :: (m ++ '/' :: d)) query fragment = some u) :
    ∃ ts, u.path = .segments (ts ++ [d]) := by
  have hfront (c : Char) (hc : c ∈ (m ++ '/' :: d).head?) : isSlash true c = false := by
    obtain ⟨e, r, rfl⟩ := List.exists_cons_of_ne_nil hm.ne_nil
    obtain rfl : e = c := by simpa using hc
    simp [isSlash, hm.not_slash e (by simp), ne_backslash_of_isKept (hm.isKept e (by simp))]
  have hdrop := dropWhile_append_of_head hfront (xs ++ ['/'])
  rw [List.append_assoc, List.singleton_append, ← List.append_assoc _ m] at hdrop
  simp only [parseAbsolute, if_neg hscheme, hspecial, if_true, hdrop, Option.bind_eq_bind,
    Option.bind_eq_some_iff, Option.some.injEq] at h
  obtain ⟨⟨a, p⟩, hparse, rfl⟩ := h
  exact parseFromAuthority_append hspecial hscheme hd hparse

/-- The text of a path ends in its last segment. -/
private theorem suffix_write_segments (ts : List (List Char)) (d : List Char) :
    '/' :: d <:+ (Path.segments (ts ++ [d])).write := by
  rw [Path.write, List.flatMap_append]
  exact ⟨_, by rw [List.flatMap_singleton]⟩

/-- The text of a URL without a fragment ends in the path and the query. -/
theorem suffix_write {u : Url} (h : u.fragment = none) :
    u.path.write ++ writePart '?' u.query <:+ u.write := by
  rw [write, h, writePart, List.append_nil, List.append_assoc (_ ++ _)]
  exact List.suffix_append ..

/-- A text ends in one plain segment only. -/
theorem IsPlain.suffix_iff {d e text : List Char} (hd : IsPlain d) (he : IsPlain e)
    (h : '/' :: d <:+ text) : '/' :: e <:+ text ↔ e = d := by
  -- Of two ends the shorter one is an end of the longer one, in which there is no other slash.
  have heq {a b : List Char} (hb : IsPlain b) (hab : '/' :: a <:+ '/' :: b) : a = b := by
    obtain heq | hsuffix := List.suffix_cons_iff.mp hab
    · exact (List.cons.inj heq).2
    · exact absurd rfl (hb.not_slash '/' (hsuffix.subset (by simp)))
  constructor
  · intro h'
    obtain hed | hde := List.suffix_or_suffix_of_suffix h' h
    · exact heq hd hed
    · exact (heq he hde).symm
  · rintro rfl
    exact h

/-- The text of a query ends in the plain segment that it was made from. -/
private theorem suffix_percentEncode {escaped : Char → Bool} (xs : List Char) {s : List Char}
    (hs : ∀ c ∈ s, escaped c = false) : s <:+ percentEncode escaped (xs ++ s) := by
  rw [percentEncode_append, percentEncode_of_plain hs]
  exact List.suffix_append ..

/-- How a text is made a URL without a base, once it has been cut at its marks. -/
theorem parseWith_none {text front body : List Char} {query fragment : Option (List Char)}
    (hfragment : cut '#' (tidy text) = (front, fragment)) (hquery : cut '?' front = (body, query)) :
    parseWith none text =
      (splitScheme body).bind fun x => parseAbsolute x.1 x.2 query fragment := by
  simp only [parseWith, hfragment, hquery]
  cases splitScheme body <;> rfl

/-- The scheme ends at the first colon. -/
theorem eq_of_splitScheme {a r scheme cs : List Char} (ha : ':' ∉ a)
    (h : splitScheme (a ++ ':' :: r) = some (scheme, cs)) : cs = r := by
  simp only [splitScheme, cut_append_cons ha] at h
  split at h
  · exact (Prod.mk.inj (Option.some.inj h)).2.symm
  · simp at h

/-- **A URL ends in the last of two plain segments** that were written after a base without a
fragment, wherever the parts of the base have gone. -/
theorem parse_appended {b m d : List Char} {u : Url} (hb : '#' ∉ b) (hm : IsPlain m)
    (hd : IsPlain d)
    (h : parseWith none (b ++ '/' :: (m ++ '/' :: d)) = some u) (hspecial : isSpecial u.scheme)
    (hscheme : u.scheme ≠ "file".toList) :
    u.fragment = none ∧ '/' :: d <:+ u.path.write ++ writePart '?' u.query := by
  have hkept : ∀ c ∈ '/' :: (m ++ '/' :: d), isKept c := by
    have hslash : isKept '/' := by decide
    simpa [or_imp, forall_and, hslash] using ⟨hm.isKept, hd.isKept⟩
  have hys := tidy_append (List.cons_ne_nil _ _) hkept b
  have hsub := tidyFront_subset b
  generalize tidyFront b = ys at hys hsub
  have hnot {mark : Char} (hys : mark ∉ ys) (hmark : isKept mark = false) :
      mark ∉ ys ++ '/' :: (m ++ '/' :: d) := by
    rw [List.mem_append, not_or]
    exact ⟨hys, fun hmem => by simp [hkept _ hmem] at hmark⟩
  have hfragment : cut '#' (tidy (b ++ '/' :: (m ++ '/' :: d))) =
      (ys ++ '/' :: (m ++ '/' :: d), none) := by
    rw [hys]
    exact cut_of_notMem (hnot (fun hmem => hb (hsub hmem)) (by decide))
  by_cases hquery : '?' ∈ ys
  · -- The segments have got into the query.
    obtain ⟨a, r, rfl, ha⟩ := List.eq_append_cons_of_mem hquery
    rw [List.append_assoc, List.cons_append] at hfragment
    rw [parseWith_none hfragment (cut_append_cons ha _), Option.bind_eq_some_iff] at h
    obtain ⟨⟨scheme, cs⟩, -, h⟩ := h
    obtain ⟨rfl, hq, hf⟩ := parseAbsolute_parts h
    have hplain : ∀ c ∈ '/' :: d, escapedInSpecialQuery c = false := fun c hc =>
      (not_escaped_of_isKept (hkept c (by simp_all))).2
    have hsuffix := suffix_percentEncode (r ++ '/' :: m) hplain
    rw [List.append_assoc, List.cons_append] at hsuffix
    refine ⟨hf, ?_⟩
    rw [hq, parseQuery, hspecial, Option.map_some, writePart]
    exact (hsuffix.trans (List.suffix_cons ..)).trans (List.suffix_append ..)
  · have hpath := cut_of_notMem (hnot hquery (by decide))
    rw [parseWith_none hfragment hpath, Option.bind_eq_some_iff] at h
    obtain ⟨⟨scheme, cs⟩, hsplit, h⟩ := h
    obtain ⟨rfl, hq, hf⟩ := parseAbsolute_parts h
    refine ⟨hf, ?_⟩
    by_cases hcolon : ':' ∈ ys
    · -- The segments are at the end of the path.
      obtain ⟨a, r, rfl, ha⟩ := List.eq_append_cons_of_mem hcolon
      rw [List.append_assoc, List.cons_append] at hsplit
      obtain rfl := eq_of_splitScheme ha hsplit
      obtain ⟨ts, hts⟩ := parseAbsolute_append hspecial hscheme hm hd h
      rw [hq, hts]
      exact (suffix_write_segments ts d).trans (by simp [parseQuery, writePart])
    · simp [splitScheme, cut_of_notMem (hnot hcolon (by decide))] at hsplit

end ProcTrace.Url
