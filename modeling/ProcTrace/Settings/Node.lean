import ProcTrace.Settings.Fault
import ProcTrace.Toml.Value

/-!
# Settings

Settings form a tree: single values, lists and tables. Lists and tables that were taken from a file
unchanged remember it as their **origin**. The settings of one source are laid over those of the
sources before it (`Node.put`): a table is merged key by key, and anything else replaces what was
there. Keys are compared in small letters.

An index may be far behind the end of a list, which is then made as long as it takes. Not every list
can be made: the process ends where there is no room for it (`Room`), and where an index is before
the start (`place`).
-/

namespace ProcTrace.Settings

/-- A tree of settings. -/
inductive Node where
  | nothing
  | scalar (s : Scalar)
  | list (origin : Option String) (items : List Node)
  | table (origin : Option String) (entries : List (String × Node))

/-- A table without entries. -/
def Node.empty : Node :=
  .table none []

/-- What a tree is when something else is wanted. -/
def Node.found : Node → Found
  | .nothing => .nothing
  | .scalar s => .scalar s
  | .list _ _ => .list
  | .table _ _ => .table

/-! ### Keys -/

/-- The small form of a letter. Outside ASCII only two letters have small forms with an ASCII letter
in them, and only those forms can make a key one that is looked for. -/
def lowerChar (c : Char) : List Char :=
  if c = '\u212A' then ['k'] else if c = '\u0130' then ['i', '\u0307'] else [c.toLower]

/-- A key in small letters. -/
def lower (key : String) : String :=
  String.ofList (key.toList.flatMap lowerChar)

/-! ### Entries -/

/-- The entries with the one under a key changed, or made if there is none. -/
def change (key : String) (f : Option Node → Node) :
    List (String × Node) → List (String × Node)
  | [] => [(key, f none)]
  | (k, n) :: rest => if k = key then (k, f (some n)) :: rest else (k, n) :: change key f rest

/-- The tree as a table with the entry under a key changed. What is not a table gives way to one. -/
def Node.changeEntry (n : Node) (key : String) (f : Option Node → Node) : Node :=
  match n with
  | .table origin entries => .table origin (change (lower key) f entries)
  | _ => .table none (change (lower key) f [])

/-- The entry under a key. -/
def Node.entry? (n : Node) (key : String) : Option Node :=
  match n with
  | .table _ entries => entries.lookup key
  | _ => none

/-! ### Items -/

/-- What ends a process in the middle of its work. -/
inductive Crash where
  | panic
  | signal (n : Nat)
  deriving DecidableEq, Repr

/-- What comes of making a list of so many items: the process goes on, or it ends. -/
abbrev Room := Nat → Option Crash

/-- The bytes that an item of a list takes up. -/
def itemSize : Nat := 96

/-- There is room for every list whose bytes have addresses. The others are not even asked for. -/
def Room.addressable : Room := fun length =>
  if length * itemSize ≤ Int64.maxValue.toInt.toNat then none else some .panic

/-- The place in a list of a length that an index stands for. A negative index counts from the end,
and there is no place before the start. -/
def place (length : Nat) (index : Int) : Except Crash Nat :=
  let i := if index < 0 then length + index else index
  if i < 0 then .error .panic else .ok i.toNat

/-- The items of a list, made longer until there is one at a place. -/
def padTo (room : Room) (i : Nat) (items : List Node) : Except Crash (List Node) :=
  if i < items.length then .ok items
  else match room (i + 1) with
    | some crash => .error crash
    | none => .ok (items ++ List.replicate (i + 1 - items.length) .nothing)

/-- The tree as a list with an item changed. What is not a list gives way to one. -/
def Node.changeItem (room : Room) (n : Node) (index : Int) (f : Node → Except Crash Node) :
    Except Crash Node := do
  let (origin, items) := match n with
    | .list origin items => (origin, items)
    | _ => (none, [])
  let i ← place items.length index
  let items ← padTo room i items
  let item ← f (items.getD i .nothing)
  .ok (.list origin (items.set i item))

/-! ### Overlays -/

mutual

/-- The second tree laid over the first one, if there is one. -/
def Node.over (old : Option Node) : Node → Node
  | .table _ entries => Node.entriesOver entries (old.getD .empty)
  | new => new

/-- The entries laid over a tree one by one. -/
def Node.entriesOver : List (String × Node) → Node → Node
  | [], old => old
  | (key, new) :: rest, old =>
    Node.entriesOver rest (old.changeEntry key fun e => Node.over e new)

end

/-- One step from a tree to a part of it. -/
inductive Step where
  | key (k : String)
  | index (i : Int)
  deriving DecidableEq, Repr

/-- The tree with another one laid over the part that a path leads to. What is laid over an item of
a list replaces it. -/
def Node.put (room : Room) (new : Node) : List Step → Node → Except Crash Node
  | [], old => .ok (Node.over (some old) new)
  | [.key k], old => .ok (old.changeEntry k fun e => Node.over e new)
  | [.index i], old => old.changeItem room i fun _ => .ok new
  | .key k :: path, old => do
    let part ← Node.put room new path ((old.entry? (lower k)).getD .nothing)
    .ok (old.changeEntry k fun _ => part)
  | .index i :: path, old => old.changeItem room i fun e => Node.put room new path e

/-! ### Settings of a file -/

mutual

/-- The settings that a value of a file stands for. -/
def Node.ofToml (origin : String) : Toml.Value → Node
  | .text s => .scalar (.text s)
  | .integer n => .scalar (.integer n)
  | .floating d => .scalar (.floating d)
  | .flag b => .scalar (.flag b)
  | .moment s => .scalar (.text s)
  | .list _ elements => .list (some origin) (Node.ofElements origin elements)
  | .table _ members => .table (some origin) (Node.ofMembers origin members)

/-- The settings that the elements of a list stand for. -/
def Node.ofElements (origin : String) : List Toml.Value → List Node
  | [] => []
  | v :: vs => Node.ofToml origin v :: Node.ofElements origin vs

/-- The settings that the members of a table stand for. -/
def Node.ofMembers (origin : String) : List (String × Toml.Value) → List (String × Node)
  | [] => []
  | (k, v) :: ms => (k, Node.ofToml origin v) :: Node.ofMembers origin ms

end

end ProcTrace.Settings
