import ProcTrace.Decimal.Double

/-!
# TOML values

The values of a TOML document. Tables and lists keep the form in which they were written, since the
form decides whether a later line may add to them.
-/

namespace ProcTrace.Toml

/-- How a table came about. -/
inductive Form where
  /-- Under a header of its own, or as the whole document. -/
  | header
  /-- As a part of a longer header. -/
  | implied
  /-- By a dotted key. -/
  | dotted
  /-- Between braces. -/
  | inline
  deriving DecidableEq, Repr

/-- A value. A list is `ofTables` if its elements stand under headers. -/
inductive Value where
  | text (s : String)
  | integer (n : Int)
  | floating (d : Decimal.Double)
  | flag (b : Bool)
  | moment (s : String)
  | list (ofTables : Bool) (elements : List Value)
  | table (form : Form) (members : List (String × Value))

/-- The members of a table, in the order in which they were written. -/
abbrev Members := List (String × Value)

/-- The members with a new value under a key that is among them. -/
def Members.set (ms : Members) (key : String) (v : Value) : Members :=
  ms.map fun (k, w) => if k = key then (k, v) else (k, w)

/-- The members of a table, changed in the table that a path of keys leads to, if the path may be
used and the change can be made. On the way tables are made where there are none; the last element
stands for a list of tables. A path of a dotted key leads through no table that has a header. -/
def Members.within (viaDotted : Bool) (change : Form → Members → Option Members) :
    List String → Form → Members → Option Members
  | [], form, ms => change form ms
  | key :: path, _, ms =>
    match ms.lookup key with
    | none =>
      let form := if viaDotted then .dotted else .implied
      (Members.within viaDotted change path form []).map fun inner =>
        ms ++ [(key, .table form inner)]
    | some (.table form inner) =>
      if form = .inline ∨ (viaDotted ∧ form = .header) then none
      else
        (Members.within viaDotted change path form inner).map fun inner =>
          ms.set key (.table form inner)
    | some (.list true elements) =>
      match elements.getLast? with
      | some (.table form inner) =>
        (Members.within viaDotted change path form inner).map fun inner =>
          ms.set key (.list true (elements.dropLast ++ [.table form inner]))
      | _ => none
    | some _ => none

/-- The members of a table with one more value, which a key without dots adds only to a table that
no dotted key has made, and a dotted key only to one that a dotted key has made. -/
def Members.insert (ms : Members) (path : List String) (key : String) (v : Value) :
    Option Members :=
  Members.within true
    (fun form inner =>
      if form = .dotted ↔ path = [] then none
      else if (inner.lookup key).isSome then none
      else some (inner ++ [(key, v)]))
    path .header ms

/-- The members of a table with a table under a header at a path. A table that longer headers have
implied gets its header late. -/
def Members.openTable (ms : Members) (path : List String) (key : String) : Option Members :=
  Members.within false
    (fun _ inner =>
      match inner.lookup key with
      | none => some (inner ++ [(key, .table .header [])])
      | some (.table .implied members) => some (Members.set inner key (.table .header members))
      | some _ => none)
    path .header ms

/-- The members of a table with one more table in a list of tables at a path. -/
def Members.openElement (ms : Members) (path : List String) (key : String) : Option Members :=
  Members.within false
    (fun _ inner =>
      match inner.lookup key with
      | none => some (inner ++ [(key, .list true [.table .header []])])
      | some (.list true elements) =>
        some (Members.set inner key (.list true (elements ++ [.table .header []])))
      | some _ => none)
    path .header ms

/-- The members of a table with a value added under a header, which is named by its path. -/
def Members.insertUnder (ms : Members) (header path : List String) (key : String) (v : Value) :
    Option Members :=
  Members.within false (fun _ inner => Members.insert inner path key v) header .header ms

end ProcTrace.Toml
