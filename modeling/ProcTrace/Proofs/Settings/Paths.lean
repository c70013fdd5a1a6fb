import Mathlib.Data.String.Basic
import ProcTrace.Settings.Files

/-!
# Paths and the files they lead to

The parts of a path are what a split of its characters at every slash gives (`Files.parts_eq`), so
that parts without slashes can be joined and are found again (`Files.parts_intercalate`). A path
without two dots goes straight to its end: it leads to the file of the names among its parts, if the
directories on the way are there (`Files.walk_straight`); and a path leads to no file but one with
the name that the path ends in (`Files.exists_lookup_of_walk`).
-/

namespace ProcTrace.Settings.Files

/-! ### Parts -/

open String in
/-- The pieces found so far, the piece that is being read, and the pieces of the characters after
it. -/
private theorem splitOnAux_slash (before piece rest : List Char) (found : List String) :
    splitOnAux (ofList (before ++ piece ++ rest)) "/" ⟨utf8Len before⟩ ⟨utf8Len (before ++ piece)⟩ 0
        found =
      found.reverse ++ (List.splitOnPPrepend (· == '/') rest piece.reverse).map ofList := by
  have hget : Pos.Raw.get "/" 0 = '/' := rfl
  have hend : Pos.Raw.atEnd "/" (Pos.Raw.next "/" 0) = true := rfl
  induction rest generalizing before piece found with
  | nil =>
    have hextract := extract_of_valid before piece []
    rw [splitOnAux.eq_1, if_pos ((atEnd_of_valid (before ++ piece) []).mpr rfl), utf8Len_append,
      hextract]
    simp
  | cons c rest ih =>
    have hextract := extract_of_valid before piece (c :: rest)
    have hmore : ¬ Pos.Raw.atEnd (ofList (before ++ piece ++ c :: rest))
        ⟨utf8Len (before ++ piece)⟩ :=
      mt (atEnd_of_valid (before ++ piece) (c :: rest)).mp (List.cons_ne_nil c rest)
    rw [splitOnAux.eq_1, if_neg hmore, get_of_valid, hget, List.headD_cons,
      List.splitOnPPrepend_cons_eq_if]
    by_cases hc : c = '/'
    · subst hc
      have hback : (⟨utf8Len (before ++ piece) + '/'.utf8Size⟩ : Pos.Raw).unoffsetBy
          (Pos.Raw.next "/" 0) = ⟨utf8Len before + utf8Len piece⟩ := by
        rw [← utf8Len_append]
        rfl
      have hrest := ih (before ++ piece ++ ['/']) [] (ofList piece :: found)
      rw [if_pos (beq_self_eq_true _), if_pos (beq_self_eq_true _), next_of_valid]
      simp only [hend, if_true, hback, hextract, List.reverse_reverse]
      simpa [Nat.add_assoc] using hrest
    · have hbeq : (c == '/') = false := by simpa using hc
      have hstay (i : Pos.Raw) : i.unoffsetBy 0 = i := rfl
      have hrest := ih before (piece ++ [c]) found
      rw [hstay, next_of_valid, hbeq]
      simpa [Nat.add_assoc] using hrest

/-- The parts of a path are the pieces between its slashes. -/
private theorem parts_eq (path : String) :
    parts path = (path.toList.splitOn '/').map String.ofList := by
  have h := splitOnAux_slash [] [] path.toList []
  rw [List.nil_append, List.nil_append, String.ofList_toList] at h
  exact h

/-- Parts without slashes are found again in the path that they are joined to. -/
theorem parts_intercalate {names : List String} (hne : names ≠ [])
    (h : ∀ name ∈ names, '/' ∉ name.toList) : parts ("/".intercalate names) = names := by
  have hlists : ∀ cs ∈ names.map String.toList, '/' ∉ cs := by
    simpa only [List.forall_mem_map] using h
  have hslash : "/".toList = ['/'] := rfl
  rw [parts_eq, String.toList_intercalate, hslash,
    List.splitOn_intercalate '/' hlists (by simpa using hne), List.map_map]
  exact (List.map_congr_left fun name _ => String.ofList_toList).trans (List.map_id names)

/-- A name without slashes is the only part of itself. -/
theorem parts_name {name : String} (h : '/' ∉ name.toList) : parts name = [name] :=
  parts_intercalate (List.cons_ne_nil name []) (List.forall_mem_singleton.mpr h)

/-- There is no slash in a piece between slashes. -/
private theorem slash_notMem_of_mem_splitOn {cs piece : List Char} (h : piece ∈ cs.splitOn '/') :
    '/' ∉ piece := by
  induction cs generalizing piece with
  | nil =>
    have hpiece : piece = [] := by simpa using h
    simp [hpiece]
  | cons c cs ih =>
    obtain ⟨first, pieces, hsplit⟩ :=
      List.exists_cons_of_ne_nil (List.splitOn_ne_nil '/' cs)
    rw [List.splitOn_cons_eq_if_modifyHead] at h
    split_ifs at h with hc
    · obtain rfl | h := List.mem_cons.mp h
      · exact List.not_mem_nil
      · exact ih h
    · -- The character goes in front of the first piece.
      rw [hsplit, List.modifyHead_cons] at h
      obtain rfl | h := List.mem_cons.mp h
      · have hfirst : '/' ∉ first := ih (hsplit ▸ List.mem_cons_self)
        have hne : '/' ≠ c := by
          rintro rfl
          exact hc rfl
        exact List.not_mem_cons_of_ne_of_not_mem hne hfirst
      · exact ih (hsplit ▸ List.mem_cons_of_mem first h)

/-- There is no slash in a part of a path. -/
theorem slash_notMem_of_mem_parts {path part : String} (h : part ∈ parts path) :
    '/' ∉ part.toList := by
  rw [parts_eq] at h
  obtain ⟨piece, hpiece, rfl⟩ := List.mem_map.mp h
  rw [String.toList_ofList]
  exact slash_notMem_of_mem_splitOn hpiece

/-! ### Ways through directories -/

variable {fs : Files}

/-- A step on the way through the parts of a path. -/
private theorem walk_cons {dir : List String} {part : String} {rest : List String} (h : rest ≠ []) :
    fs.walk dir (part :: rest) =
      if isStill part then fs.walk dir rest
      else if part = ".." then fs.walk dir.dropLast rest
      else if fs.isDirectory (dir ++ [part]) then fs.walk (dir ++ [part]) rest
      else none := by
  rw [walk]
  exact h

/-- A path leads to no file but one with the name that it ends in. -/
theorem exists_lookup_of_walk {dir ps : List String} {bytes : Text.Bytes}
    (h : fs.walk dir ps = some bytes) :
    ∃ dir' name, ps.getLast? = some name ∧ isStill name = false ∧
      fs.contents.lookup (dir' ++ [name]) = some bytes := by
  induction ps generalizing dir with
  | nil => cases h
  | cons part rest ih =>
    by_cases hrest : rest = []
    · subst hrest
      rw [walk] at h
      split_ifs at h with hpart
      rw [not_or, Bool.not_eq_true] at hpart
      exact ⟨dir, part, rfl, hpart.1, h⟩
    · have hlast : (part :: rest).getLast? = rest.getLast? := by
        obtain ⟨next, rest, rfl⟩ := List.exists_cons_of_ne_nil hrest
        exact List.getLast?_cons_cons
      rw [walk_cons hrest] at h
      rw [hlast]
      split_ifs at h
      · exact ih h
      · exact ih h
      · exact ih h

/-- Where there are no files, no path leads to one. -/
theorem read?_of_contents_eq_nil (h : fs.contents = []) (path : String) : fs.read? path = none := by
  rw [Option.eq_none_iff_forall_ne_some]
  intro bytes hread
  obtain ⟨dir, name, -, -, hlookup⟩ := exists_lookup_of_walk hread
  rw [h] at hlookup
  cases hlookup

/-- A path without two dots **goes straight to its end**, if the directories on it are there. -/
theorem walk_straight {dir init : List String} {name : String} (hinit : ".." ∉ init)
    (hdirs : ∀ ds, ds <+: init.filter (!isStill ·) → ds ≠ [] → fs.isDirectory (dir ++ ds))
    (hstill : isStill name = false) (hback : name ≠ "..") :
    fs.walk dir (init ++ [name]) =
      fs.contents.lookup (dir ++ init.filter (!isStill ·) ++ [name]) := by
  induction init generalizing dir with
  | nil =>
    rw [List.nil_append, walk, if_neg (by simp [hstill, hback]), List.filter_nil, List.append_nil]
  | cons part init ih =>
    obtain ⟨hpart, hinit⟩ := List.ne_and_not_mem_of_not_mem_cons hinit
    rw [List.cons_append, walk_cons (List.append_ne_nil_of_right_ne_nil _ (List.cons_ne_nil _ _))]
    by_cases hs : isStill part
    · rw [List.filter_cons_of_neg (by simp [hs])] at hdirs ⊢
      rw [if_pos hs]
      exact ih hinit hdirs
    · rw [List.filter_cons_of_pos (by simp [hs])] at hdirs ⊢
      have hdir : fs.isDirectory (dir ++ [part]) :=
        hdirs [part] (List.cons_prefix_cons.mpr ⟨rfl, List.nil_prefix⟩) (List.cons_ne_nil _ _)
      rw [if_neg hs, if_neg (Ne.symm hpart), if_pos hdir, ih hinit fun ds hds _ => ?_]
      · simp only [List.append_assoc, List.singleton_append]
      · have hds' := hdirs (part :: ds) (List.cons_prefix_cons.mpr ⟨rfl, hds⟩)
          (List.cons_ne_nil _ _)
        simpa only [List.append_assoc, List.singleton_append] using hds'

end ProcTrace.Settings.Files
