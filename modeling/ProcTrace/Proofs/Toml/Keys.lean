import Mathlib.Data.List.Nodup
import ProcTrace.Proofs.Text.Yields
import ProcTrace.Toml.Document

/-!
# No key occurs twice in a TOML document

A document is refused where a line would write a key again that its table has already. So the tables
of a document that is not refused are **proper**: no key occurs twice in one of them, however deep
it lies and in whichever form it was written (`parse_isProper`). Those who read a table may look a
key up and need not ask which of several values counts.

Tables are changed in two places only: values are added to tables between braces while they are
read, and lines change the tables of the document. The changes keep tables proper, and with the
rules for readers (`Text.Reader.Yields`) this goes through to the whole document.
-/

namespace ProcTrace.Toml

open Text (Reader)
open Text.Reader (Yields)

/-! ### Proper values -/

/-- A value is **proper** if no key occurs twice in a table that it is or that lies in it. -/
inductive Value.IsProper : Value → Prop where
  | text (s : String) : IsProper (.text s)
  | integer (n : Int) : IsProper (.integer n)
  | floating (d : Decimal.Double) : IsProper (.floating d)
  | flag (b : Bool) : IsProper (.flag b)
  | moment (s : String) : IsProper (.moment s)
  | list {ofTables : Bool} {elements : List Value} (values : ∀ v ∈ elements, IsProper v) :
    IsProper (.list ofTables elements)
  | table {form : Form} {members : List (String × Value)} (keys : (members.map Prod.fst).Nodup)
    (values : ∀ m ∈ members, IsProper m.2) : IsProper (.table form members)

/-- The members are those of a proper table. -/
structure Members.IsProper (ms : Members) : Prop where
  keys : (ms.map Prod.fst).Nodup
  values : ∀ m ∈ ms, m.2.IsProper

theorem isProper_table {form : Form} {ms : Members} :
    (Value.table form ms).IsProper ↔ Members.IsProper ms := by
  constructor
  · rintro (_ | _ | _ | _ | _ | _ | ⟨keys, values⟩)
    exact ⟨keys, values⟩
  · rintro ⟨keys, values⟩
    exact .table keys values

private theorem isProper_list {ofTables : Bool} {elements : List Value} :
    (Value.list ofTables elements).IsProper ↔ ∀ v ∈ elements, v.IsProper := by
  constructor
  · rintro (_ | _ | _ | _ | _ | h)
    exact h
  · exact .list

namespace Members

variable {ms : Members} {key : String} {v : Value}

private theorem isProper_nil : IsProper [] :=
  ⟨List.nodup_nil, fun _ => List.not_mem_nil.elim⟩

/-- A key that is looked up in vain is not the key of a member. -/
private theorem not_mem_keys (h : ms.lookup key = none) : key ∉ ms.map Prod.fst := by
  rw [List.lookup_eq_none_iff] at h
  intro hkey
  obtain ⟨m, hm, rfl⟩ := List.mem_map.1 hkey
  simpa using h m hm

private theorem mem_of_lookup (h : ms.lookup key = some v) : (key, v) ∈ ms := by
  obtain ⟨before, after, rfl, -⟩ := List.lookup_eq_some_iff.1 h
  exact List.mem_append_right before List.mem_cons_self

theorem IsProper.lookup (h : IsProper ms) (hv : ms.lookup key = some v) : v.IsProper :=
  h.values _ (mem_of_lookup hv)

/-- A member with a new key keeps a table proper. -/
theorem IsProper.append (h : IsProper ms) (hkey : ms.lookup key = none) (hv : v.IsProper) :
    IsProper (ms ++ [(key, v)]) where
  keys := by
    rw [List.map_append]
    refine h.keys.append (List.nodup_singleton key) ?_
    exact List.disjoint_singleton.2 (not_mem_keys hkey)
  values m hm := by
    obtain hm | hm := List.mem_append.1 hm
    · exact h.values m hm
    · rw [List.mem_singleton.1 hm]
      exact hv

/-- So does a new value for a key. -/
theorem IsProper.set (h : IsProper ms) (hv : v.IsProper) : IsProper (Members.set ms key v) where
  keys := by
    have hkeys : (Members.set ms key v).map Prod.fst = ms.map Prod.fst := by
      rw [Members.set, List.map_map]
      refine List.map_congr_left fun m _ => ?_
      dsimp only [Function.comp_apply]
      split <;> rfl
    rw [hkeys]
    exact h.keys
  values m hm := by
    obtain ⟨⟨k, w⟩, hw, rfl⟩ := List.mem_map.1 hm
    dsimp only
    split
    · exact hv
    · exact h.values _ hw

/-- **A change keeps all tables proper** if it keeps the one table proper that it is made in. -/
theorem IsProper.within {viaDotted : Bool} {change : Form → Members → Option Members}
    (hchange : ∀ form inner res, IsProper inner → change form inner = some res → IsProper res)
    {path : List String} {form : Form} {res : Members} (h : IsProper ms)
    (hres : Members.within viaDotted change path form ms = some res) : IsProper res := by
  induction path generalizing form ms res with
  | nil => exact hchange form ms res h hres
  | cons key path ih =>
    unfold Members.within at hres
    split at hres
    · -- There is no such table yet: the change is made in an empty one.
      next hkey =>
      obtain ⟨inner, hinner, rfl⟩ := Option.map_eq_some_iff.1 hres
      exact h.append hkey (isProper_table.2 (ih isProper_nil hinner))
    · next form inner hkey =>
      split at hres
      · cases hres
      · obtain ⟨inner', hinner, rfl⟩ := Option.map_eq_some_iff.1 hres
        have hproper := isProper_table.1 (h.lookup hkey)
        exact h.set (isProper_table.2 (ih hproper hinner))
    · -- Of a list of tables it is the last one that the change is made in.
      next elements hkey =>
      split at hres
      · next form inner hlast =>
        obtain ⟨inner', hinner, rfl⟩ := Option.map_eq_some_iff.1 hres
        have helements := isProper_list.1 (h.lookup hkey)
        have hproper := isProper_table.1 (helements _ (List.mem_of_getLast? hlast))
        refine h.set (isProper_list.2 fun v hv => ?_)
        obtain hv | hv := List.mem_append.1 hv
        · exact helements v (List.dropLast_subset elements hv)
        · rw [List.mem_singleton.1 hv]
          exact isProper_table.2 (ih hproper hinner)
      · cases hres
    · cases hres

/-- A value that is inserted keeps all tables proper. -/
theorem IsProper.insert {path : List String} {res : Members} (h : IsProper ms) (hv : v.IsProper)
    (hres : Members.insert ms path key v = some res) : IsProper res := by
  refine h.within (fun form inner res hinner hchange => ?_) hres
  split at hchange
  · cases hchange
  · split at hchange
    · cases hchange
    · next hnone =>
      cases hchange
      exact hinner.append (Option.not_isSome_iff_eq_none.1 hnone) hv

/-- So does a table that is opened. -/
theorem IsProper.openTable {path : List String} {res : Members} (h : IsProper ms)
    (hres : Members.openTable ms path key = some res) : IsProper res := by
  refine h.within (fun form inner res hinner hchange => ?_) hres
  split at hchange
  · next hnone =>
    cases hchange
    exact hinner.append hnone (isProper_table.2 isProper_nil)
  · next members hsome =>
    cases hchange
    exact hinner.set (isProper_table.2 (isProper_table.1 (hinner.lookup hsome)))
  · cases hchange

/-- So does a table that a list of tables is made longer by. -/
theorem IsProper.openElement {path : List String} {res : Members} (h : IsProper ms)
    (hres : Members.openElement ms path key = some res) : IsProper res := by
  have hempty : (Value.table .header []).IsProper := isProper_table.2 isProper_nil
  refine h.within (fun form inner res hinner hchange => ?_) hres
  split at hchange
  · next hnone =>
    cases hchange
    exact hinner.append hnone (isProper_list.2 (List.forall_mem_singleton.2 hempty))
  · next elements hsome =>
    cases hchange
    refine hinner.set (isProper_list.2 fun v hv => ?_)
    obtain hv | hv := List.mem_append.1 hv
    · exact isProper_list.1 (hinner.lookup hsome) v hv
    · rwa [List.mem_singleton.1 hv]
  · cases hchange

/-- And so does a value that is inserted under a header. -/
theorem IsProper.insertUnder {header path : List String} {res : Members} (h : IsProper ms)
    (hv : v.IsProper) (hres : Members.insertUnder ms header path key v = some res) :
    IsProper res :=
  h.within (fun _ _ _ hinner hchange => hinner.insert hv hchange) hres

end Members

/-! ### Readers of values -/

private theorem elements_yields {element : Reader Value} (h : element.Yields Value.IsProper) :
    (elements element).Yields fun vs => ∀ v ∈ vs, v.IsProper := by
  refine .after fun next => ?_
  split
  · exact .pure fun _ => List.not_mem_nil.elim
  · have hone : (do listBlanks; let v ← element; listBlanks; pure v : Reader Value).Yields
        Value.IsProper :=
      .after fun _ => .bind h fun v hv => .after fun _ => .pure hv
    refine .bind (.separated hone) fun vs hvs => ?_
    split
    · exact .after fun _ => .after fun _ => .pure hvs
    · exact .after fun _ => .pure hvs

private theorem list_yields {element : Reader Value} (h : element.Yields Value.IsProper) :
    (list element).Yields Value.IsProper :=
  .after fun _ => .bind (.must (elements_yields h)) fun _ hvs => .after fun _ => .pure (.list hvs)

private theorem member_yields {value : Reader Value} (h : value.Yields Value.IsProper) :
    (member value).Yields fun m => m.2.2.IsProper :=
  .after fun _ => .after fun _ => .after fun _ => .bind (.must h) fun _ hv =>
    .after fun _ => .pure hv

/-- Members that are inserted one after the other make a proper table. -/
private theorem isProper_of_foldlM {ps : List (List String × String × Value)} {ms res : Members}
    (hps : ∀ p ∈ ps, p.2.2.IsProper) (h : Members.IsProper ms)
    (hres : ps.foldlM (fun ms (path, k, v) => Members.insert ms path k v) ms = some res) :
    Members.IsProper res := by
  induction ps generalizing ms with
  | nil =>
    cases hres
    exact h
  | cons p ps ih =>
    rw [List.foldlM_cons] at hres
    obtain ⟨ms', hms', hres⟩ := Option.bind_eq_some_iff.1 hres
    obtain ⟨hp, hps⟩ := List.forall_mem_cons.1 hps
    exact ih hps (h.insert hp hms') hres

private theorem members_yields {value : Reader Value} (h : value.Yields Value.IsProper) :
    (members value).Yields Members.IsProper := by
  have hmembers : (do
      let ps ← Text.Reader.separated (member value) (Text.Reader.char ',')
      blanks
      pure ps : Reader (List (List String × String × Value))).Yields
      fun ps => ∀ p ∈ ps, p.2.2.IsProper :=
    .bind (.separated (member_yields h)) fun _ hps => .after fun _ => .pure hps
  exact .filterMap hmembers fun _ _ hps hms => isProper_of_foldlM hps Members.isProper_nil hms

private theorem inlineTable_yields {value : Reader Value} (h : value.Yields Value.IsProper) :
    (inlineTable value).Yields Value.IsProper :=
  .after fun _ => .bind (.must (members_yields h)) fun _ hms =>
    .after fun _ => .pure (isProper_table.2 hms)

private theorem numeric_yields : numeric.Yields Value.IsProper :=
  .orElse (.after fun _ => .pure (.moment _)) (.orElse (.after fun _ => .pure (.floating _))
    (.after fun _ => .pure (.integer _)))

private theorem scalar_yields : scalar.Yields Value.IsProper := by
  refine .after fun next => ?_
  split
  · exact .after fun _ => .pure (.text _)
  · exact .after fun _ => .pure (.text _)
  · exact .after fun _ => .pure (.flag _)
  · exact .after fun _ => .pure (.flag _)
  · exact .after fun _ => .pure (.floating _)
  · exact .after fun _ => .pure (.floating _)
  · exact .after fun _ => .pure (.floating _)
  · exact .after fun _ => .pure (.integer _)
  · split
    · exact numeric_yields
    · exact .fail
  · exact .fail

/-- **Every value that is read is proper**, however deep it goes. -/
theorem valueUpTo_yields (n : Nat) : (valueUpTo n).Yields Value.IsProper := by
  induction n with
  | zero => exact scalar_yields
  | succ n ih =>
    refine .after fun next => ?_
    split
    · exact list_yields ih
    · exact inlineTable_yields ih
    · exact scalar_yields

/-! ### Lines -/

variable {d : Draft}

private theorem keyLine_yields (h : Members.IsProper d.members) :
    (keyLine d).Yields fun d' => Members.IsProper d'.members := by
  refine .filterMap (P := fun m => m.2.2.IsProper) ?_ fun m d' hm hd' => ?_
  · exact .after fun _ => .after fun _ => .after fun _ => .bind (.must (valueUpTo_yields _))
      fun _ hv => .after fun _ => .pure hv
  · obtain ⟨ms, hms, rfl⟩ := Option.map_eq_some_iff.1 hd'
    exact h.insertUnder hm hms

private theorem headerLine_yields (h : Members.IsProper d.members) :
    (headerLine d).Yields fun d' => Members.IsProper d'.members := by
  intro s d' r hfound
  -- What is read first decides whether there is a reader for the rest, so that no rule applies yet.
  unfold headerLine at hfound
  split at hfound
  next isElement header _ =>
    split at hfound
    · cases hfound
    · refine Yields.filterMap (Q := fun d' => Members.IsProper d'.members) (.any header)
        (fun m d' _ hd' => ?_) s d' r hfound
      obtain ⟨ms, hms, rfl⟩ := Option.map_eq_some_iff.1 hd'
      split at hms
      · exact h.openElement hms
      · exact h.openTable hms

private theorem line_yields (h : Members.IsProper d.members) :
    (line d).Yields fun d' => Members.IsProper d'.members := by
  refine .after fun next => ?_
  split
  · exact .after fun _ => .pure h
  · exact .must (headerLine_yields h)
  · exact .after fun _ => .pure h
  · exact .after fun _ => .pure h
  · exact .must (keyLine_yields h)
  · exact .fail

private theorem linesUpTo_yields (n : Nat) (h : Members.IsProper d.members) :
    (linesUpTo n d).Yields fun d' => Members.IsProper d'.members := by
  induction n generalizing d with
  | zero => exact .pure h
  | succ n ih =>
    refine .bind (.optional (line_yields h)) fun next hnext => ?_
    split
    · next d' => exact .after fun _ => ih (hnext d' rfl)
    · exact .pure h

/-! ### The main statement -/

/-- **A document is a proper table.** -/
theorem parse_isProper {text : String} {ms : Members} (h : parse text = .ok ms) :
    Members.IsProper ms := by
  have hdocument : document.Yields Members.IsProper := fun s =>
    Yields.after (fun _ => .after fun _ =>
      .bind (linesUpTo_yields s.length Members.isProper_nil) fun _ hd =>
        .after fun _ => .pure hd) s
  unfold parse at h
  split at h
  · next r hfound =>
    cases h
    exact hdocument _ _ _ hfound
  · cases h
  · cases h

end ProcTrace.Toml
