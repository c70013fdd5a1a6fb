import Mathlib.Data.List.TakeWhile
import ProcTrace.Proofs.Idna.Blank
import ProcTrace.Url.Parse

/-!
# Authorities that end in a blank

A blank at the end of an authority belongs to the port or to the host. There is no such port, and no
such address in brackets; and a domain name keeps the blank in all forms that it takes on its way to
ASCII (`Idna.mem_toAscii_append`), where it is forbidden. So no special URL has an authority that
ends in a blank (`parseAuthority_append`).
-/

namespace ProcTrace

variable {c : Char}

namespace Text.Utf8

/-- Every byte after the first of a character is outside ASCII. -/
private theorem low_of_start {b : UInt8} {p : Pending} (h : start b = .partly p) :
    0x80 ≤ p.low := by
  unfold start at h
  split_ifs at h
  all_goals
    obtain rfl := Start.partly.inj h
    dsimp only
    decide

/-- A byte of ASCII is a character of its own, whatever is pending before it. -/
private theorem exists_piecesAfter_append {b : UInt8} (hb : b < 0x80) (bs : Bytes)
    (p : Option Pending) (hp : ∀ q ∈ p, 0x80 ≤ q.low) :
    ∃ ps, piecesAfter p (bs ++ [b]) = ps ++ [some (Char.ofNat b.toNat)] := by
  have hstart : start b = .whole (Char.ofNat b.toNat) := if_pos hb
  have hout {q : Pending} (hq : 0x80 ≤ q.low) : ¬ (q.low ≤ b ∧ b ≤ q.high) := fun h =>
    absurd (UInt8.le_trans hq h.1) (UInt8.not_le.mpr hb)
  have hcons (x : Option Char) {ys : List (Option Char)}
      (h : ∃ ps, ys = ps ++ [some (Char.ofNat b.toNat)]) :
      ∃ ps, x :: ys = ps ++ [some (Char.ofNat b.toNat)] := by
    obtain ⟨ps, rfl⟩ := h
    exact ⟨x :: ps, rfl⟩
  have hnone : ∀ q ∈ (none : Option Pending), 0x80 ≤ q.low := fun q hq => nomatch hq
  induction bs generalizing p with
  | nil =>
    have hlast : ∃ ps, piecesAfter none [b] = ps ++ [some (Char.ofNat b.toNat)] :=
      ⟨[], by simp [piecesAfter, hstart]⟩
    rcases p with _ | q
    · exact hlast
    · rw [List.nil_append, piecesAfter, if_neg (hout (hp q rfl))]
      exact hcons none hlast
  | cons d bs ih =>
    have hbegin : ∃ ps, piecesAfter none (d :: bs ++ [b]) = ps ++ [some (Char.ofNat b.toNat)] := by
      rw [List.cons_append, piecesAfter]
      rcases hd : start d with c | q | _
      · exact hcons _ (ih none hnone)
      · exact ih (some q) (by rintro _ ⟨⟩; exact low_of_start hd)
      · exact hcons _ (ih none hnone)
    rcases p with _ | q
    · exact hbegin
    · by_cases hin : q.low ≤ d ∧ d ≤ q.high
      · rw [List.cons_append, piecesAfter, if_pos hin]
        dsimp only
        split_ifs
        · exact hcons _ (ih none hnone)
        · refine ih (some _) fun q' hq' => ?_
          rw [← Option.some.inj hq']
          exact UInt8.le_refl 0x80
      · -- The byte does not go on with the character, so it is read as the start of another one.
        rw [List.cons_append, piecesAfter, if_neg hin]
        exact hcons none hbegin

/-- **A text ends in the character of ASCII that its bytes end in.** -/
theorem exists_of_decode?_append {b : UInt8} (hb : b < 0x80) {bs : Bytes} {cs : List Char}
    (h : decode? (bs ++ [b]) = some cs) : ∃ ds, cs = ds ++ [Char.ofNat b.toNat] := by
  obtain ⟨ps, hps⟩ := exists_piecesAfter_append hb bs none (by simp)
  unfold decode? pieces at h
  rw [hps, List.mapM_append, Option.bind_eq_bind, Option.bind_eq_some_iff] at h
  obtain ⟨ds, -, h⟩ := h
  simp only [List.mapM_cons, List.mapM_nil, id_eq, Option.pure_def, Option.bind_eq_bind,
    Option.bind_some, Option.some.injEq] at h
  exact ⟨ds, h.symm⟩

end Text.Utf8

namespace Url

/-! ### Hosts -/

/-- A blank is no part of an escape. -/
private theorem percentDecode_append (hc : IsBlank c) (cs : List Char) :
    percentDecode (cs ++ [c]) = percentDecode cs ++ [c.toNat.toUInt8] := by
  have hself : percentDecode [c] = [c.toNat.toUInt8] :=
    forall_isBlank (p := fun c => percentDecode [c] = [c.toNat.toUInt8]) (by decide) hc
  have hdigit : hexValue? c = none :=
    forall_isBlank (p := fun c => hexValue? c = none) (by decide) hc
  induction cs using percentDecode.induct with
  | case1 a b r x y hx hy ih => simp [percentDecode, hx, hy, ih]
  | case2 a b r hne ih =>
    simp only [List.cons_append] at ih ⊢
    rw [percentDecode, percentDecode]
    split
    · next x y hx hy => exact absurd hy (hne x y hx)
    · rw [ih]
      rfl
  | case3 d r hne ih =>
    have hwhole : percentDecode (d :: r) = String.utf8EncodeChar d ++ percentDecode r :=
      percentDecode.eq_2 d r hne
    rw [List.cons_append, hwhole, List.append_assoc, ← ih]
    by_cases hshort : d = '%' ∧ r.length = 1
    · -- The percent sign is followed by one character and the blank, which is no digit.
      obtain ⟨rfl, hlength⟩ := hshort
      obtain ⟨a, rfl⟩ := List.length_eq_one_iff.mp hlength
      rw [List.singleton_append, percentDecode]
      simp only [hdigit]
      rcases hexValue? a with _ | x
      · rfl
      · rfl
    · refine percentDecode.eq_2 d (r ++ [c]) fun a b t hd hs => ?_
      rcases r with _ | ⟨x, _ | ⟨y, r⟩⟩
      · cases hs
      · exact hshort ⟨hd, rfl⟩
      · exact hne x y r hd rfl
  | case4 => exact hself

/-- **No host ends in a blank.** -/
theorem Host.parse_append (hc : IsBlank c) (cs : List Char) : Host.parse (cs ++ [c]) = none := by
  have hbrackets : c ≠ '[' ∧ c ≠ ']' :=
    forall_isBlank (p := fun c => c ≠ '[' ∧ c ≠ ']') (by decide) hc
  have hforbidden : isForbiddenInDomain c = true :=
    forall_isBlank (p := fun c => isForbiddenInDomain c = true) (by decide) hc
  unfold Host.parse
  split
  · next r hopen =>
    obtain ⟨r', rfl⟩ : ∃ r', r = r' ++ [c] := by
      obtain ⟨rfl, hr⟩ | ⟨r', rfl, hr⟩ := List.append_eq_cons_iff.mp hopen
      · exact absurd (List.cons.inj hr).1 hbrackets.1
      · exact ⟨r', hr⟩
    rw [bracketed?, if_neg]
    rw [List.getLast?_concat]
    exact fun heq => hbrackets.2 (Option.some.inj heq)
  · rw [Option.eq_none_iff_forall_ne_some]
    intro host h
    simp only [percentDecode_append hc, Option.bind_eq_bind, Option.bind_eq_some_iff] at h
    obtain ⟨decoded, hdecoded, name, hname, h⟩ := h
    have hascii : c.toNat.toUInt8 < 0x80 ∧ Char.ofNat c.toNat.toUInt8.toNat = c :=
      forall_isBlank (p := fun c => c.toNat.toUInt8 < 0x80 ∧ Char.ofNat c.toNat.toUInt8.toNat = c)
        (by decide) hc
    obtain ⟨ds, rfl⟩ := Text.Utf8.exists_of_decode?_append hascii.1 hdecoded
    rw [hascii.2] at hname
    have hmem := Idna.mem_toAscii_append hc hname
    rw [if_pos (.inr (List.any_eq_true.mpr ⟨c, hmem, hforbidden⟩))] at h
    cases h

/-! ### Authorities -/

private theorem exists_of_cutLast_append {mark : Char} (hmark : c ≠ mark) {cs u r : List Char}
    (h : cutLast mark (cs ++ [c]) = some (u, r)) : ∃ r', r = r' ++ [c] := by
  have hdrop : (c :: cs.reverse).dropWhile (· ≠ mark) = cs.reverse.dropWhile (· ≠ mark) :=
    List.dropWhile_cons_of_pos (decide_eq_true hmark)
  have htake : (c :: cs.reverse).takeWhile (· ≠ mark) = c :: cs.reverse.takeWhile (· ≠ mark) :=
    List.takeWhile_cons_of_pos (decide_eq_true hmark)
  unfold cutLast cut at h
  rw [List.reverse_append, List.reverse_singleton, List.singleton_append, hdrop, htake] at h
  split at h
  · next after before hcut =>
    split at hcut
    · cases hcut
    · obtain ⟨rfl, -⟩ := Prod.mk.inj hcut
      obtain ⟨-, rfl⟩ := Prod.mk.inj (Option.some.inj h)
      exact ⟨_, List.reverse_cons⟩
  · cases h

/-- The text of the host and what follows it make up the text, and what follows starts with a
colon. -/
private theorem splitHost_parts (inBrackets : Bool) (cs : List Char) :
    (splitHost inBrackets cs).1 ++ (splitHost inBrackets cs).2 = cs ∧
      ∀ d ∈ (splitHost inBrackets cs).2.head?, d = ':' := by
  induction cs generalizing inBrackets with
  | nil => simp [splitHost]
  | cons d r ih =>
    unfold splitHost
    split_ifs with hcolon
    · exact ⟨rfl, by simpa using hcolon.1⟩
    all_goals
      obtain ⟨hparts, hhead⟩ := ih _
      exact ⟨congrArg (d :: ·) hparts, hhead⟩

/-- There is no host or no port in a text that ends in a blank. -/
private theorem host_or_port_append (hc : IsBlank c) (scheme cs : List Char) :
    Host.parse (splitHost false (cs ++ [c])).1 = none ∨
      parsePort scheme ((splitHost false (cs ++ [c])).2.drop 1) = none := by
  have hmarks : c ≠ ':' ∧ c.isDigit = false :=
    forall_isBlank (p := fun c => c ≠ ':' ∧ c.isDigit = false) (by decide) hc
  obtain ⟨hparts, hcolon⟩ := splitHost_parts false (cs ++ [c])
  rcases hport : (splitHost false (cs ++ [c])).2 with _ | ⟨d, port⟩
  · rw [hport, List.append_nil] at hparts
    rw [hparts]
    exact .inl (Host.parse_append hc cs)
  · have hd : d = ':' := hcolon d (by rw [hport]; rfl)
    have hlast : (d :: port).getLast? = some c := by
      have heq := congrArg List.getLast? hparts
      rw [hport, List.getLast?_append, List.getLast?_concat, List.getLast?_cons,
        Option.some_or] at heq
      rwa [List.getLast?_cons]
    have hmem : c ∈ port := by
      obtain rfl | hmem := List.mem_cons.mp (List.mem_of_getLast? hlast)
      · exact absurd hd hmarks.1
      · exact hmem
    refine .inr ?_
    rw [List.drop_one, List.tail_cons, parsePort, if_neg]
    intro hdigits
    rw [List.all_eq_true.mp hdigits c hmem] at hmarks
    exact absurd hmarks.2 (by decide)

/-- **No special URL has an authority that ends in a blank.** -/
theorem parseAuthority_append (hc : IsBlank c) {scheme : List Char} (hspecial : isSpecial scheme)
    (cs : List Char) : parseAuthority scheme (cs ++ [c]) = none := by
  have hat : c ≠ '@' := forall_isBlank (p := fun c => c ≠ '@') (by decide) hc
  rw [Option.eq_none_iff_forall_ne_some]
  intro a h
  -- The text after the user ends in the blank, too.
  obtain ⟨rest, host, port, hhost, hport⟩ : ∃ rest host port,
      Host.parse (splitHost false (rest ++ [c])).1 = some host ∧
        parsePort scheme ((splitHost false (rest ++ [c])).2.drop 1) = some port := by
    unfold parseAuthority at h
    rcases hcut : cutLast '@' (cs ++ [c]) with _ | ⟨u, r⟩
    · simp only [hcut, hspecial, if_true] at h
      split_ifs at h
      simp only [Option.bind_eq_bind, Option.bind_eq_some_iff] at h
      obtain ⟨host, hhost, port, hport, -⟩ := h
      exact ⟨cs, host, port, hhost, hport⟩
    · obtain ⟨rest, rfl⟩ := exists_of_cutLast_append hat hcut
      simp only [hcut, hspecial, if_true] at h
      split_ifs at h
      simp only [Option.bind_eq_bind, Option.bind_eq_some_iff] at h
      obtain ⟨host, hhost, port, hport, -⟩ := h
      exact ⟨rest, host, port, hhost, hport⟩
  obtain hnone | hnone := host_or_port_append hc scheme rest
  · rw [hnone] at hhost
    cases hhost
  · rw [hnone] at hport
    cases hport

end Url

end ProcTrace
