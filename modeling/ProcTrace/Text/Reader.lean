/-!
# Readers that know where they failed

A `Reader` takes a text from some point on. It **finds** what it looks for, and then there is the
text after it; or what it looks for is **absent**, and another reader may be tried in its place; or
the text is **broken**, and nothing else is tried. In the last two cases the reader tells the point
of the text at which it noticed.

The two kinds of failure meet in three places: a choice goes on only from what is absent
(`Reader.orElse`), repetition and options end there (`Reader.many`, `Reader.optional`), and
`Reader.must` turns what is absent into a broken text.
-/

namespace ProcTrace.Text

/-- What a reader makes of a text. -/
inductive Read (α : Type) where
  | found (a : α) (rest : List Char)
  | absent (unread : List Char)
  | broken (unread : List Char)

/-- A reader of some kind of thing. -/
def Reader (α : Type) : Type :=
  List Char → Read α

namespace Reader

variable {α β : Type}

instance : Monad Reader where
  pure a := fun s => .found a s
  bind p f := fun s =>
    match p s with
    | .found a r => f a r
    | .absent u => .absent u
    | .broken u => .broken u

/-- Nothing is found. -/
def fail : Reader α :=
  fun s => .absent s

/-- The first reader, or else the second from the same point on. -/
protected def orElse (p : Reader α) (q : Unit → Reader α) : Reader α :=
  fun s =>
    match p s with
    | .absent _ => q () s
    | found => found

instance : OrElse (Reader α) :=
  ⟨Reader.orElse⟩

/-- What is absent here breaks the text. -/
def must (p : Reader α) : Reader α :=
  fun s =>
    match p s with
    | .absent u => .broken u
    | found => found

/-- What is absent here breaks the text at the point where it should have started. -/
def mustHere (p : Reader α) : Reader α :=
  fun s =>
    match p s with
    | .absent _ => .broken s
    | found => found

/-- Something that may be missing. -/
def optional (p : Reader α) : Reader (Option α) :=
  fun s =>
    match p s with
    | .found a r => .found (some a) r
    | .absent _ => .found none s
    | .broken u => .broken u

/-- What is found and has a value; what has none is absent from its start on. -/
def filterMap (f : α → Option β) (p : Reader α) : Reader β :=
  fun s =>
    match p s with
    | .found a r =>
      match f a with
      | some b => .found b r
      | none => .absent s
    | .absent u => .absent u
    | .broken u => .broken u

/-- What is found must have a value; what has none breaks the text from its start on. -/
def mustMap (f : α → Option β) (p : Reader α) : Reader β :=
  fun s =>
    match p s with
    | .found a r =>
      match f a with
      | some b => .found b r
      | none => .broken s
    | .absent u => .absent u
    | .broken u => .broken u

/-- At most so many things in a row. -/
def manyUpTo (p : Reader α) : Nat → Reader (List α)
  | 0 => pure []
  | n + 1 => fun s =>
    match p s with
    | .found a r => (do pure (a :: (← manyUpTo p n)) : Reader (List α)) r
    | .absent _ => .found [] s
    | .broken u => .broken u

/-- Things in a row. Each of them takes up a character, so there are no more than the text has
characters. -/
def many (p : Reader α) : Reader (List α) :=
  fun s => manyUpTo p s.length s

/-- One thing or more, with something between any two of them. -/
def separated1 (p : Reader α) (separator : Reader β) : Reader (List α) := do
  let a ← p
  let rest ← many (separator >>= fun _ => p)
  pure (a :: rest)

/-- Things with something between any two of them. -/
def separated (p : Reader α) (separator : Reader β) : Reader (List α) :=
  separated1 p separator <|> pure []

/-! ### Characters -/

/-- The next character, which stays unread. -/
def peek : Reader (Option Char) :=
  fun s => .found s.head? s

/-- A character of some kind. -/
def satisfy (f : Char → Bool) : Reader Char
  | [] => .absent []
  | c :: r => if f c then .found c r else .absent (c :: r)

/-- One character. -/
def char (c : Char) : Reader Char :=
  satisfy (· = c)

/-- The characters of some kind that come next. -/
def chars (f : Char → Bool) : Reader (List Char) :=
  fun s => .found (s.takeWhile f) (s.dropWhile f)

/-- The characters of some kind that come next, at least one. -/
def chars1 (f : Char → Bool) : Reader (List Char) :=
  fun s => if (s.takeWhile f).isEmpty then .absent s else chars f s

/-- So many characters of some kind, of which no more are looked for. -/
def count (n : Nat) (f : Char → Bool) : Reader (List Char) :=
  fun s =>
    let cs := (s.take n).takeWhile f
    if cs.length = n then .found cs (s.drop n) else .absent s

/-- A fixed text. -/
def literal (t : String) : Reader Unit :=
  fun s => if t.toList.isPrefixOf s then .found () (s.drop t.length) else .absent s

/-- The end of the text. -/
def atEnd : Reader Unit :=
  fun s => if s.isEmpty then .found () [] else .absent s

/-- The reader succeeds from here on; what it finds stays unread. -/
def ahead (p : Reader α) : Reader Unit :=
  fun s =>
    match p s with
    | .found _ _ => .found () s
    | .absent _ => .absent s
    | .broken u => .broken u

end Reader

end ProcTrace.Text
