import Mathlib.Data.List.TakeWhile
import ProcTrace.Proofs.Url.Appended
import ProcTrace.Proofs.Url.Blank

/-!
# URLs beneath a base

A client writes plain segments after a base and has the whole text parsed, so that the base is not
parsed as it stands: its last segment may be a dot that now leads elsewhere, and blanks at its end
are no longer at the end of the text. For a base that is a special URL itself, without a query and a
fragment, it comes to one of two things (`parse_beneath`). Either nothing that is written beneath it
is a URL, since the blanks have got into the authority. Or there is a path to which the segments are
appended, the same for all segments, and nothing else of the URL changes.
-/

namespace ProcTrace.Url

/-- The text of a base with segments **beneath** it. -/
def beneath (b : List Char) (ds : List (List Char)) : List Char :=
  b ++ (Path.segments ds).write

/-- The URL with other segments as its path. -/
def withPath (u : Url) (ss : List (List Char)) : Url :=
  { u with path := .segments ss }

theorem beneath_nil (b : List Char) : beneath b [] = b :=
  List.append_nil b

private theorem beneath_cons (b d : List Char) (ds : List (List Char)) :
    beneath b (d :: ds) = beneath (b ++ '/' :: d) ds := by
  simp [beneath, Path.write]

theorem beneath_append (b : List Char) (ds es : List (List Char)) :
    beneath b (ds ++ es) = beneath (beneath b ds) es := by
  simp [beneath, Path.write]

private theorem append_beneath (a b : List Char) (ds : List (List Char)) :
    a ++ beneath b ds = beneath (a ++ b) ds :=
  (List.append_assoc ..).symm

/-- Plain segments are written with characters that are kept. -/
private theorem isKept_of_mem_write {ds : List (List Char)} (hds : ∀ d ∈ ds, IsPlain d) :
    ∀ c ∈ (Path.segments ds).write, isKept c := by
  intro c hc
  obtain ⟨d, hd, hc⟩ := List.mem_flatMap.mp hc
  obtain rfl | hc := List.mem_cons.mp hc
  · decide
  · exact (hds d hd).isKept c hc

private theorem write_segments_ne_nil {ds : List (List Char)} (hne : ds ≠ []) :
    (Path.segments ds).write ≠ [] := by
  obtain ⟨d, ds, rfl⟩ := List.exists_cons_of_ne_nil hne
  exact List.cons_ne_nil _ _

/-! ### The front of a text -/

/-- What tidying takes from the end of a text, and leaves in front of characters that are kept, are
blanks. -/
private theorem exists_tidyFront (cs : List Char) :
    ∃ z, tidyFront cs = tidy cs ++ z ∧ ∀ c ∈ z, IsBlank c := by
  let blank (c : Char) : Bool := c.toNat ≤ 0x20
  let l := cs.dropWhile blank
  let z := (l.reverse.takeWhile blank).reverse.filter fun c => !(c = '\t' || c = '\n' || c = '\r')
  have hl : (l.reverse.dropWhile blank).reverse ++ (l.reverse.takeWhile blank).reverse = l := by
    rw [← List.reverse_append, List.takeWhile_append_dropWhile, List.reverse_reverse]
  refine ⟨z, ?_, fun c hc => ?_⟩
  · have hfilter := congrArg (List.filter fun c => !(c = '\t' || c = '\n' || c = '\r')) hl
    rw [List.filter_append] at hfilter
    exact hfilter.symm
  · have hmem : c ∈ l.reverse.takeWhile blank := List.mem_reverse.mp (List.mem_filter.mp hc).1
    exact of_decide_eq_true (p := c.toNat ≤ 0x20) (List.all_eq_true.mp List.all_takeWhile c hmem)

/-- The scheme of a text does not depend on what is behind its colon. -/
private theorem exists_of_splitScheme {cs scheme r : List Char}
    (h : splitScheme cs = some (scheme, r)) :
    ∃ a, cs = a ++ ':' :: r ∧ ∀ t, splitScheme (a ++ ':' :: t) = some (scheme, t) := by
  by_cases hcolon : ':' ∈ cs
  · obtain ⟨a, r', rfl, ha⟩ := List.eq_append_cons_of_mem hcolon
    obtain rfl := eq_of_splitScheme ha h
    refine ⟨a, rfl, fun t => ?_⟩
    simp only [splitScheme, cut_append_cons ha] at h ⊢
    split_ifs at h ⊢
    exact congrArg (fun s => some (s, t)) (Prod.mk.inj (Option.some.inj h)).1
  · simp [splitScheme, cut_of_notMem hcolon] at h

/-- Segments beneath a text are separated from it. -/
private theorem splitSegments_beneath {ds : List (List Char)} (hds : ∀ d ∈ ds, IsPlain d)
    (special : Bool)
    (xs : List Char) : splitSegments special (beneath xs ds) = splitSegments special xs ++ ds := by
  induction ds generalizing xs with
  | nil =>
    rw [beneath_nil, List.append_nil]
  | cons d ds ih =>
    obtain ⟨hd, hds⟩ := List.forall_mem_cons.mp hds
    rw [beneath_cons, ih hds, splitSegments_append hd, List.append_assoc, List.singleton_append]

/-! ### Special URLs -/

section

variable {scheme : List Char} (hspecial : isSpecial scheme)

include hspecial

/-- A text is cut at its first slash. -/
private theorem parseFromAuthority_cut {front rest : List Char}
    (hfront : ∀ c ∈ front, isSlash true c = false)
    (hrest : ∀ c ∈ rest.head?, isSlash true c) :
    parseFromAuthority scheme (front ++ rest) =
      (parseAuthority scheme front).map fun a => (a, parsePath scheme [] rest) := by
  have hpos : ∀ c ∈ front, (!isSlash true c) = true := fun c hc => by rw [hfront c hc]; rfl
  have hstop : rest.takeWhile (!isSlash true ·) = [] ∧ rest.dropWhile (!isSlash true ·) = rest := by
    rcases rest with _ | ⟨c, r⟩
    · exact ⟨rfl, rfl⟩
    · simp [hrest c rfl]
  unfold parseFromAuthority
  simp only [hspecial, List.takeWhile_append_of_pos hpos, List.dropWhile_append_of_pos hpos,
    hstop.1, hstop.2, List.append_nil]
  rcases parseAuthority scheme front with _ | a
  · rfl
  · rfl

/-- Nothing has no authority. -/
private theorem ne_nil_of_parseFromAuthority {cs : List Char} {x : Authority × Path}
    (h : parseFromAuthority scheme cs = some x) : cs ≠ [] := by
  rintro rfl
  have hnone : parseAuthority scheme [] = none := by
    simp [parseAuthority, hspecial, cutLast, cut, splitHost]
  have hempty : parseFromAuthority scheme ([] ++ []) = _ :=
    parseFromAuthority_cut hspecial (by simp) (by simp)
  rw [List.append_nil, hnone, h] at hempty
  cases hempty

variable (hscheme : scheme ≠ "file".toList)

include hscheme

/-- How the text after the scheme is made a URL without a query and a fragment. -/
private theorem parseAbsolute_special (cs : List Char) :
    parseAbsolute scheme cs none none =
      (parseFromAuthority scheme (cs.dropWhile (isSlash true))).map fun x =>
        ⟨scheme, some x.1, x.2, none, none⟩ := by
  unfold parseAbsolute
  rw [if_neg hscheme, if_pos hspecial]
  rcases parseFromAuthority scheme (cs.dropWhile (isSlash true)) with _ | ⟨a, p⟩
  · rfl
  · rfl

/-- The path of a text that starts with a slash. -/
private theorem parsePath_slash {c : Char} (hc : isSlash true c) (r : List Char) :
    parsePath scheme [] (c :: r) = .segments (walk scheme [] (splitSegments true r)) := by
  simp only [parsePath, hspecial, hc, trimSegments, if_neg hscheme, if_true, reduceCtorEq,
    false_and, if_false]

/-- Segments beneath a text with a slash are appended to a path. -/
private theorem exists_parsePath_beneath {c : Char} (hc : isSlash true c) (r : List Char) :
    ∃ ts, ∀ ds, ds ≠ [] → (∀ d ∈ ds, IsPlain d) →
      parsePath scheme [] (beneath (c :: r) ds) = .segments (ts ++ ds) := by
  obtain ⟨ts, hts⟩ := exists_walk_append hscheme (splitSegments true r) []
  refine ⟨ts, fun ds hne hds => ?_⟩
  have hcons : beneath (c :: r) ds = c :: beneath r ds := rfl
  rw [hcons, parsePath_slash hspecial hscheme hc, splitSegments_beneath hds, hts ds hne hds]

/-- Segments beneath nothing are the whole path. -/
private theorem parsePath_beneath_nil {ds : List (List Char)} (hne : ds ≠ [])
    (hds : ∀ d ∈ ds, IsPlain d) :
    parsePath scheme [] (beneath [] ds) = .segments ds := by
  obtain ⟨d, rest, rfl⟩ := List.exists_cons_of_ne_nil hne
  obtain ⟨hd, hrest⟩ := List.forall_mem_cons.mp hds
  have hcons : beneath [] (d :: rest) = '/' :: beneath d rest := by
    rw [beneath_cons]
    rfl
  rw [hcons, parsePath_slash hspecial hscheme (by decide), splitSegments_beneath hrest,
    splitSegments_plain hd, List.singleton_append, walk_plain hscheme hds, List.nil_append]

/-- Segments beneath an authority are the whole path. -/
private theorem parseFromAuthority_beneath_front {front : List Char}
    (hfront : ∀ c ∈ front, isSlash true c = false) {ds : List (List Char)} (hne : ds ≠ [])
    (hds : ∀ d ∈ ds, IsPlain d) :
    parseFromAuthority scheme (beneath front ds) =
      (parseAuthority scheme front).map fun a => (a, .segments ds) := by
  have hslash : ∀ c ∈ (beneath [] ds).head?, isSlash true c := by
    obtain ⟨d, ds, rfl⟩ := List.exists_cons_of_ne_nil hne
    rintro c ⟨⟩
    decide
  rw [← parsePath_beneath_nil hspecial hscheme hne hds,
    ← parseFromAuthority_cut hspecial hfront hslash, append_beneath, List.append_nil]

/-- **What is beneath an authority**, and possibly a path, when blanks come between: no URL, or one
with the same authority. -/
theorem parseFromAuthority_beneath {cs z : List Char} {a : Authority} {p : Path}
    (hz : ∀ c ∈ z, IsBlank c) (h : parseFromAuthority scheme cs = some (a, p)) :
    (∀ ds, ds ≠ [] → (∀ d ∈ ds, IsPlain d) →
        parseFromAuthority scheme (beneath (cs ++ z) ds) = none) ∨
      ∃ ts, ∀ ds, ds ≠ [] → (∀ d ∈ ds, IsPlain d) →
        parseFromAuthority scheme (beneath (cs ++ z) ds) = some (a, .segments (ts ++ ds)) := by
  obtain ⟨front, rest, rfl, hfront, hrest⟩ : ∃ front rest, cs = front ++ rest ∧
      (∀ c ∈ front, isSlash true c = false) ∧ ∀ c ∈ rest.head?, isSlash true c := by
    refine ⟨cs.takeWhile (!isSlash true ·), cs.dropWhile (!isSlash true ·),
      List.takeWhile_append_dropWhile.symm, fun c hc => ?_, fun c hc => ?_⟩
    · simpa using List.all_eq_true.mp List.all_takeWhile c hc
    · have hnot := List.head?_dropWhile_not (!isSlash true ·) cs
      rw [hc] at hnot
      simpa using hnot
  rw [parseFromAuthority_cut hspecial hfront hrest, Option.map_eq_some_iff] at h
  obtain ⟨a', ha, hpair⟩ := h
  obtain ⟨rfl, -⟩ := Prod.mk.inj hpair
  rcases rest with _ | ⟨c, r⟩
  · rw [List.append_nil]
    have hblank : ∀ c ∈ z, isSlash true c = false := fun c hc =>
      forall_isBlank (p := fun c => isSlash true c = false) (by decide) (hz c hc)
    have hfront' : ∀ c ∈ front ++ z, isSlash true c = false := by
      simpa only [List.forall_mem_append] using ⟨hfront, hblank⟩
    have hbeneath {ds : List (List Char)} (hne : ds ≠ []) (hds : ∀ d ∈ ds, IsPlain d) :=
      parseFromAuthority_beneath_front hspecial hscheme hfront' hne hds
    obtain rfl | ⟨z', c, hconcat⟩ := List.eq_nil_or_concat z
    · refine .inr ⟨[], fun ds hne hds => ?_⟩
      rw [hbeneath hne hds, List.append_nil, ha]
      rfl
    · -- The blanks are at the end of the authority.
      refine .inl fun ds hne hds => ?_
      have hc : IsBlank c := hz c (by rw [hconcat]; simp)
      rw [hbeneath hne hds, hconcat, List.concat_eq_append, ← List.append_assoc,
        parseAuthority_append hc hspecial]
      rfl
  · obtain ⟨ts, hts⟩ := exists_parsePath_beneath hspecial hscheme (hrest c rfl) (r ++ z)
    refine .inr ⟨ts, fun ds hne hds => ?_⟩
    have htext : beneath (front ++ c :: r ++ z) ds = front ++ beneath (c :: (r ++ z)) ds := by
      rw [append_beneath, List.append_assoc, List.cons_append]
    have hhead : ∀ d ∈ (beneath (c :: (r ++ z)) ds).head?, isSlash true d := by
      rintro d ⟨⟩
      exact hrest c rfl
    rw [htext, parseFromAuthority_cut hspecial hfront hhead, ha, hts ds hne hds]
    rfl

end

/-- How a base with segments beneath it is made a URL, if it has no query and no fragment. -/
private theorem parseWith_beneath {b front rest scheme : List Char} (hquery : '?' ∉ b)
    (hfragment : '#' ∉ b) (htidy : tidyFront b = front ++ ':' :: rest)
    (hfront : ∀ t, splitScheme (front ++ ':' :: t) = some (scheme, t)) {ds : List (List Char)}
    (hne : ds ≠ []) (hds : ∀ d ∈ ds, IsPlain d) :
    parseWith none (beneath b ds) = parseAbsolute scheme (beneath rest ds) none none := by
  have hkept := isKept_of_mem_write hds
  have htext : tidy (beneath b ds) = front ++ ':' :: beneath rest ds := by
    rw [beneath, tidy_append (write_segments_ne_nil hne) hkept, htidy]
    simp [beneath]
  have hnot {mark : Char} (hmark : mark ∉ b) (hcut : isKept mark = false) :
      mark ∉ front ++ ':' :: beneath rest ds := by
    rw [← htext, beneath, tidy_append (write_segments_ne_nil hne) hkept, List.mem_append, not_or]
    exact ⟨fun hmem => hmark (tidyFront_subset b hmem),
      fun hmem => by simp [hkept _ hmem] at hcut⟩
  rw [parseWith_none (by rw [htext]; exact cut_of_notMem (hnot hfragment (by decide)))
    (cut_of_notMem (hnot hquery (by decide))), hfront, Option.bind_some]

/-- **URLs beneath a base that is a special URL.** -/
theorem parse_beneath {b : List Char} {u : Url} (hquery : '?' ∉ b) (hfragment : '#' ∉ b)
    (h : parseWith none b = some u) (hspecial : isSpecial u.scheme)
    (hscheme : u.scheme ≠ "file".toList) :
    u.query = none ∧ u.fragment = none ∧ u.authority.isSome ∧
      ((∀ ds, ds ≠ [] → (∀ d ∈ ds, IsPlain d) → parseWith none (beneath b ds) = none) ∨
        ∃ ts, ∀ ds, ds ≠ [] → (∀ d ∈ ds, IsPlain d) →
          parseWith none (beneath b ds) = some (u.withPath (ts ++ ds))) := by
  obtain ⟨z, hz, hblank⟩ := exists_tidyFront b
  have hnot {mark : Char} (hmark : mark ∉ b) : mark ∉ tidy b := fun hmem =>
    hmark (tidyFront_subset b (hz ▸ List.mem_append_left z hmem))
  rw [parseWith_none (cut_of_notMem (hnot hfragment)) (cut_of_notMem (hnot hquery)),
    Option.bind_eq_some_iff] at h
  obtain ⟨⟨scheme, cs⟩, hsplit, h⟩ := h
  obtain ⟨hsame, -, -⟩ := parseAbsolute_parts h
  rw [hsame] at hspecial hscheme
  obtain ⟨front, htidy, hfront⟩ := exists_of_splitScheme hsplit
  rw [parseAbsolute_special hspecial hscheme, Option.map_eq_some_iff] at h
  obtain ⟨⟨a, p⟩, hbase, hu⟩ := h
  have hbeneath {ds : List (List Char)} (hne : ds ≠ []) (hds : ∀ d ∈ ds, IsPlain d) :
      parseWith none (beneath b ds) =
        (parseFromAuthority scheme (beneath (cs.dropWhile (isSlash true) ++ z) ds)).map fun x =>
          ⟨scheme, some x.1, x.2, none, none⟩ := by
    have hfull : tidyFront b = front ++ ':' :: (cs ++ z) := by
      rw [hz, htidy, List.append_assoc, List.cons_append]
    have hdrop : (beneath (cs ++ z) ds).dropWhile (isSlash true) =
        beneath (cs.dropWhile (isSlash true) ++ z) ds := by
      have hrest := ne_nil_of_parseFromAuthority hspecial hbase
      simp only [beneath, List.append_assoc]
      rw [List.dropWhile_append, if_neg (by simpa using hrest)]
    rw [parseWith_beneath hquery hfragment hfull hfront hne hds,
      parseAbsolute_special hspecial hscheme, hdrop]
  subst hu
  refine ⟨rfl, rfl, rfl, ?_⟩
  obtain hnone | ⟨ts, hts⟩ := parseFromAuthority_beneath hspecial hscheme hblank hbase
  · refine .inl fun ds hne hds => ?_
    rw [hbeneath hne hds, hnone ds hne hds]
    rfl
  · refine .inr ⟨ts, fun ds hne hds => ?_⟩
    rw [hbeneath hne hds, hts ds hne hds]
    rfl

end ProcTrace.Url
