import ProcTrace.Json.Reader

/-!
# Values that nobody wants

A member that a record does not know may hold any JSON value. `skipValue` runs over such a value
and checks only its outline: numbers are not computed, the escapes of a text may name surrogates in
any combination, and lists and objects may be nested to any depth, since what is open is kept in a
list of brackets.
-/

namespace ProcTrace.Json

/-- Runs over a text up to its closing quote, the opening one having been read. -/
def skipText (s : List Char) : Except Fault (List Char) :=
  match s with
  | [] => .error (.here .endOfText [])
  | '"' :: r => .ok r
  | '\\' :: [] => .error (.here .endOfText [])
  | '\\' :: 'u' :: r =>
    match h : readHex r with
    | .error e => .error e
    | .ok (_, r') =>
      have := readHex_shorter h
      skipText r'
  | '\\' :: c :: r =>
    if ['"', '\\', '/', 'b', 'f', 'n', 'r', 't'].contains c then skipText r
    else .error (.next .badEscape (c :: r))
  | c :: r => if c.toNat < 0x20 then .error (.here .controlInText (c :: r)) else skipText r
termination_by s.length
decreasing_by all_goals (simp only [List.length_cons]; omega)

private theorem skipText_shorter {s r : List Char} (h : skipText s = .ok r) :
    r.length < s.length := by
  fun_induction skipText s with
  | case1 => simp at h
  | case2 => simp only [Except.ok.injEq] at h; rw [h]; simp
  | case3 => simp at h
  | case4 => simp at h
  | case5 r₀ _ r₁ _ hlt ih =>
    have := ih h
    simp only [List.length_cons]; omega
  | case6 _ _ _ _ ih => have := ih h; simp only [List.length_cons]; omega
  | case7 => simp at h
  | case8 => simp at h
  | case9 =>
    rename_i ih
    have := ih h
    simp only [List.length_cons]; omega

/-- Runs over the exponent of a number, the `e` having been read. -/
def skipExponent (s : List Char) : Except Fault (List Char) :=
  let digits (t : List Char) : Except Fault (List Char) :=
    match t with
    | [] => .error (.here .badNumber [])
    | c :: r => if c.isDigit then .ok (r.dropWhile Char.isDigit) else .error (.next .badNumber t)
  match s with
  | '+' :: r => digits r
  | '-' :: r => digits r
  | _ => digits s

/-- Runs over what follows the digits of a number before the point. -/
def skipAfterDigits (s : List Char) : Except Fault (List Char) :=
  match s with
  | '.' :: r =>
    match r with
    | [] => .error (.here .badNumber [])
    | c :: t =>
      if c.isDigit then
        match t.dropWhile Char.isDigit with
        | 'e' :: r => skipExponent r
        | 'E' :: r => skipExponent r
        | r => .ok r
      else .error (.next .badNumber r)
  | 'e' :: r => skipExponent r
  | 'E' :: r => skipExponent r
  | _ => .ok s

/-- Runs over a number without its sign. -/
def skipNumber (s : List Char) : Except Fault (List Char) :=
  match s with
  | [] => .error (.here .badNumber [])
  | '0' :: r =>
    match r with
    | c :: _ => if c.isDigit then .error (.next .badNumber r) else skipAfterDigits r
    | [] => .ok []
  | c :: r =>
    if c.isDigit then skipAfterDigits (r.dropWhile Char.isDigit) else .error (.next .badNumber s)

private theorem skipExponent_le {s r : List Char} (h : skipExponent s = .ok r) :
    r.length ≤ s.length := by
  have key : ∀ {t : List Char},
      (match t with
        | [] => (.error (.here .badNumber []) : Except Fault (List Char))
        | c :: u => if c.isDigit then .ok (u.dropWhile Char.isDigit)
          else .error (.next .badNumber t)) = .ok r → r.length ≤ t.length := by
    intro t ht
    split at ht
    · simp at ht
    · split at ht
      · simp only [Except.ok.injEq] at ht
        rw [← ht]; exact Nat.le_succ_of_le (dropDigits_length_le _)
      · simp at ht
  unfold skipExponent at h
  simp only at h
  split at h
  · exact Nat.le_succ_of_le (key h)
  · exact Nat.le_succ_of_le (key h)
  · exact key h

private theorem skipAfterDigits_le {s r : List Char} (h : skipAfterDigits s = .ok r) :
    r.length ≤ s.length := by
  unfold skipAfterDigits at h
  split at h
  · split at h
    · simp at h
    · next c t =>
      have hd := dropDigits_length_le t
      split at h
      · split at h
        · next ht =>
          have := skipExponent_le h
          rw [ht] at hd; simp only [List.length_cons] at *; omega
        · next ht =>
          have := skipExponent_le h
          rw [ht] at hd; simp only [List.length_cons] at *; omega
        · simp only [Except.ok.injEq] at h
          rw [← h]; simp only [List.length_cons]; omega
      · simp at h
  · exact Nat.le_succ_of_le (skipExponent_le h)
  · exact Nat.le_succ_of_le (skipExponent_le h)
  · simp only [Except.ok.injEq] at h; exact h ▸ Nat.le_refl _

private theorem skipNumber_shorter {s r : List Char} (h : skipNumber s = .ok r) :
    r.length < s.length := by
  unfold skipNumber at h
  split at h
  · simp at h
  · split at h
    · split at h
      · simp at h
      · exact Nat.lt_succ_of_le (skipAfterDigits_le h)
    · simp only [Except.ok.injEq] at h; rw [← h]; simp
  · split at h
    · exact Nat.lt_succ_of_le (Nat.le_trans (skipAfterDigits_le h) (dropDigits_length_le _))
    · simp at h

/-- A bracket that is open around the value that is skipped. -/
inductive Bracket where
  | list
  | object
  deriving DecidableEq, Repr

/-- Whether the character closes the bracket. -/
def Bracket.closedBy : Bracket → Char → Bool
  | .list, c => c = ']'
  | .object, c => c = '}'

/-- The fault of a text that ends inside the bracket. -/
def Bracket.unclosed : Bracket → Cause
  | .list => .endOfList
  | .object => .endOfObject

/-- The fault of a text that goes on with something else than a comma or the closing bracket. -/
def Bracket.unseparated : Bracket → Cause
  | .list => .listCommaOrEndWanted
  | .object => .objectCommaOrEndWanted

/-- What comes before a value inside the bracket: nothing in a list, and in an object a key and a
colon. -/
def skipKey (b : Bracket) (s : List Char) : Except Fault (List Char) :=
  match b with
  | .list => .ok s
  | .object =>
    match skipSpace s with
    | [] => .error (.here .endOfObject [])
    | '"' :: r =>
      match skipText r with
      | .error e => .error e
      | .ok r =>
        match skipSpace r with
        | [] => .error (.here .endOfObject [])
        | ':' :: r => .ok r
        | r => .error (.next .colonWanted r)
    | r => .error (.next .keyNotText r)

private theorem skipKey_le {b : Bracket} {s r : List Char} (h : skipKey b s = .ok r) :
    r.length ≤ s.length := by
  unfold skipKey at h
  split at h
  · simp only [Except.ok.injEq] at h; exact h ▸ Nat.le_refl _
  · have hs := skipSpace_length_le s
    split at h
    · simp at h
    · next t ht =>
      rw [ht] at hs
      split at h
      · simp at h
      · next u hu =>
        have h1 := skipText_shorter hu
        have h2 := skipSpace_length_le u
        split at h
        · simp at h
        · next v hv =>
          simp only [Except.ok.injEq] at h
          rw [hv] at h2; rw [← h]
          simp only [List.length_cons] at *; omega
        · simp at h
    · simp at h

/-- One value that holds no other: a literal, a number or a text. -/
def skipScalar (s : List Char) : Except Fault (List Char) :=
  match s with
  | [] => .error (.here .endOfValue [])
  | 'n' :: r => readLiteral ['u', 'l', 'l'] r
  | 't' :: r => readLiteral ['r', 'u', 'e'] r
  | 'f' :: r => readLiteral ['a', 'l', 's', 'e'] r
  | '-' :: r => skipNumber r
  | '"' :: r => skipText r
  | c :: _ => if c.isDigit then skipNumber s else .error (.next .valueWanted s)

private theorem skipScalar_shorter {s r : List Char} (h : skipScalar s = .ok r) :
    r.length < s.length := by
  unfold skipScalar at h
  split at h
  · simp at h
  · exact Nat.lt_succ_of_le (readLiteral_le h)
  · exact Nat.lt_succ_of_le (readLiteral_le h)
  · exact Nat.lt_succ_of_le (readLiteral_le h)
  · exact Nat.lt_succ_of_lt (skipNumber_shorter h)
  · exact Nat.lt_succ_of_lt (skipText_shorter h)
  · split at h
    · exact skipNumber_shorter h
    · simp at h

/-- What the text has to go on with while a value is skipped. -/
inductive Due where
  /-- A value. -/
  | value
  /-- The first entry of the innermost bracket, or its end. -/
  | firstEntry
  /-- A comma and another entry of the innermost bracket, or its end. -/
  | nextEntry
  deriving DecidableEq, Repr

/-- The order in which the stages follow each other without using up text. -/
def Due.rank : Due → Nat
  | .value => 0
  | .firstEntry => 1
  | .nextEntry => 1

/-- Runs over the text until every bracket that is open is closed again. -/
def skipUntilClosed (open_ : List Bracket) (due : Due) (s : List Char) :
    Except Fault (List Char) :=
  match due, open_ with
  | .value, open_ =>
    match hs : skipSpace s with
    | '[' :: r =>
      have : r.length < s.length := by
        have := skipSpace_length_le s; rw [hs] at this; exact this
      skipUntilClosed (.list :: open_) .firstEntry r
    | '{' :: r =>
      have : r.length < s.length := by
        have := skipSpace_length_le s; rw [hs] at this; exact this
      skipUntilClosed (.object :: open_) .firstEntry r
    | t =>
      match ht : skipScalar t with
      | .error e => .error e
      | .ok r =>
        have : r.length < s.length := by
          have h1 := skipSpace_length_le s
          have h2 := skipScalar_shorter ht
          rw [hs] at h1; omega
        skipUntilClosed open_ .nextEntry r
  | .firstEntry, [] => .ok s
  | .nextEntry, [] => .ok s
  | .firstEntry, b :: outer =>
    match hs : skipSpace s with
    | [] => .error (.here b.unclosed [])
    | c :: r =>
      have hr : r.length < s.length := by
        have := skipSpace_length_le s; rw [hs] at this; exact this
      if b.closedBy c then skipUntilClosed outer .nextEntry r
      else match ht : skipKey b (c :: r) with
        | .error e => .error e
        | .ok t =>
          have : t.length ≤ s.length := by
            have h1 := skipKey_le ht
            simp only [List.length_cons] at h1; omega
          skipUntilClosed (b :: outer) .value t
  | .nextEntry, b :: outer =>
    match hs : skipSpace s with
    | [] => .error (.here b.unclosed [])
    | c :: r =>
      have hr : r.length < s.length := by
        have := skipSpace_length_le s; rw [hs] at this; exact this
      if b.closedBy c then skipUntilClosed outer .nextEntry r
      else if c = ',' then
        match ht : skipKey b r with
        | .error e => .error e
        | .ok t =>
          have : t.length ≤ r.length := skipKey_le ht
          skipUntilClosed (b :: outer) .value t
      else .error (.next b.unseparated (c :: r))
termination_by (s.length, due.rank)
decreasing_by
  all_goals first
    | (apply Prod.Lex.left; omega)
    | (rcases Nat.lt_or_eq_of_le ‹_› with h | h
       · exact Prod.Lex.left _ _ h
       · rw [h]; exact Prod.Lex.right _ (by decide))

/-- Runs over one value of any kind. -/
def skipValue (s : List Char) : Except Fault (List Char) :=
  skipUntilClosed [] .value s

private theorem skipUntilClosed_le {open_ : List Bracket} {due : Due} {s r : List Char}
    (h : skipUntilClosed open_ due s = .ok r) :
    r.length ≤ s.length ∧ (due = .value → r.length < s.length) := by
  fun_induction skipUntilClosed open_ due s with
  | case1 _ _ t _ hlt ih => have := (ih h).1; exact ⟨by omega, fun _ => by omega⟩
  | case2 _ _ t _ hlt ih => have := (ih h).1; exact ⟨by omega, fun _ => by omega⟩
  | case3 => simp at h
  | case4 _ _ _ _ _ _ hlt ih => have := (ih h).1; exact ⟨by omega, fun _ => by omega⟩
  | case5 => simp only [Except.ok.injEq] at h; rw [h]; simp
  | case6 => simp only [Except.ok.injEq] at h; rw [h]; simp
  | case7 => simp at h
  | case8 _ _ _ _ _ _ hr _ ih => have := (ih h).1; exact ⟨by omega, by simp⟩
  | case9 => simp at h
  | case10 _ _ _ _ _ _ hr _ _ _ hle ih => have := (ih h).2 rfl; exact ⟨by omega, by simp⟩
  | case11 => simp at h
  | case12 _ _ _ _ _ _ hr _ ih => have := (ih h).1; exact ⟨by omega, by simp⟩
  | case13 => simp at h
  | case14 _ _ _ _ _ hr _ _ _ hle ih => have := (ih h).2 rfl; exact ⟨by omega, by simp⟩
  | case15 => simp at h

theorem skipValue_shorter {s r : List Char} (h : skipValue s = .ok r) : r.length < s.length :=
  (skipUntilClosed_le h).2 rfl

end ProcTrace.Json
