import ProcTrace.Json.Fault
import ProcTrace.Text.Utf8

/-!
# Readers of JSON values

A `Reader` takes the text from some point on and yields a value with the text that follows it, or a
fault. Every reader that succeeds has used up part of the text (`Reader.shorter`), which is what
makes the loops over the elements of a list and the members of an object end.

This module holds the readers of the leaves: texts in quotes, numbers, and the description of a
value that is not of the wanted kind.
-/

namespace ProcTrace.Json

/-- What is read at some point of a text, with the text after it. -/
abbrev Read (α : Type) := Except Fault (α × List Char)

/-- A reader: it leaves less of the text than it was given. -/
structure Reader (α : Type) where
  run : List Char → Read α
  shorter : ∀ {s : List Char} {a : α} {r : List Char}, run s = .ok (a, r) → r.length < s.length

/-- The reader that changes the value of another one. -/
def Reader.map {α β : Type} (f : α → β) (x : Reader α) : Reader β where
  run s := match x.run s with
    | .ok (a, r) => .ok (f a, r)
    | .error e => .error e
  shorter := by
    intro s b r h
    split at h
    · next a r' hx =>
      simp only [Except.ok.injEq, Prod.mk.injEq] at h
      exact h.2 ▸ x.shorter hx
    · simp at h

/-- The four characters that may stand between the tokens of a JSON text. -/
def isSpace (c : Char) : Bool :=
  c = ' ' || c = '\n' || c = '\t' || c = '\r'

/-- The text from its first character on that is no space. -/
def skipSpace (s : List Char) : List Char :=
  s.dropWhile isSpace

theorem skipSpace_length_le (s : List Char) : (skipSpace s).length ≤ s.length :=
  (List.dropWhile_sublist isSpace).length_le

/-! ### Texts in quotes -/

/-- The value of a hexadecimal digit. -/
def hexDigit? (c : Char) : Option Nat :=
  if '0' ≤ c ∧ c ≤ '9' then some (c.toNat - '0'.toNat)
  else if 'a' ≤ c ∧ c ≤ 'f' then some (c.toNat - 'a'.toNat + 10)
  else if 'A' ≤ c ∧ c ≤ 'F' then some (c.toNat - 'A'.toNat + 10)
  else none

/-- The fault after the first `n` bytes of a text, which may end inside a character. -/
def faultAfterBytes (cause : Cause) : Nat → List Char → Fault
  | 0, s => .here cause s
  | _, [] => .here cause []
  | n, c :: s =>
    if c.utf8Size ≤ n then faultAfterBytes cause (n - c.utf8Size) s else ⟨cause, c :: s, n⟩

/-- The number of a `\u` escape: exactly four hexadecimal digits. -/
def readHex (s : List Char) : Read Nat :=
  if Text.utf8Width (s.take 4) < 4 then .error (.here .endOfText [])
  else match s with
    | a :: b :: c :: d :: r =>
      match hexDigit? a, hexDigit? b, hexDigit? c, hexDigit? d with
      | some a', some b', some c', some d' => .ok (((a' * 16 + b') * 16 + c') * 16 + d', r)
      | _, _, _, _ => .error (faultAfterBytes .badEscape 4 s)
    | _ => .error (faultAfterBytes .badEscape 4 s)

theorem readHex_shorter {s r : List Char} {n : Nat} (h : readHex s = .ok (n, r)) :
    r.length < s.length := by
  unfold readHex at h
  split at h
  · simp at h
  · split at h
    · split at h
      · simp only [Except.ok.injEq, Prod.mk.injEq] at h
        rw [← h.2]; simp only [List.length_cons]; omega
      · simp at h
    · simp at h

def isLeadSurrogate (n : Nat) : Bool :=
  0xD800 ≤ n && n ≤ 0xDBFF

def isTrailSurrogate (n : Nat) : Bool :=
  0xDC00 ≤ n && n ≤ 0xDFFF

/-- The character of two surrogates. -/
def joinSurrogates (lead trail : Nat) : Char :=
  Char.ofNat (0x10000 + (lead - 0xD800) * 0x400 + (trail - 0xDC00))

/-- The character that a `\u` escape stands for, the `\u` having been read. A character beyond
U+FFFF is written as two escapes in a row, its surrogates. -/
def readUnicode (s : List Char) : Read Char :=
  match readHex s with
  | .error e => .error e
  | .ok (n, r) =>
    if isTrailSurrogate n then .error (.here .loneSurrogate r)
    else if isLeadSurrogate n then
      match r with
      | [] => .error (.here .endOfText [])
      | '\\' :: [] => .error (.here .endOfText [])
      | '\\' :: 'u' :: r =>
        match readHex r with
        | .error e => .error e
        | .ok (n', r) =>
          if isTrailSurrogate n' then .ok (joinSurrogates n n', r)
          else .error (.here .loneSurrogate r)
      | '\\' :: r => .error (.next .shortHexEscape r)
      | r => .error (.next .shortHexEscape r)
    else .ok (Char.ofNat n, r)

private theorem readUnicode_shorter {s r : List Char} {c : Char} (h : readUnicode s = .ok (c, r)) :
    r.length < s.length := by
  unfold readUnicode at h
  split at h
  · simp at h
  · next n r₀ h₀ =>
    have l₀ := readHex_shorter h₀
    split at h
    · simp at h
    · split at h
      · split at h
        · simp at h
        · simp at h
        · split at h
          · simp at h
          · next r₁ n' r₂ h₁ =>
            have l₁ := readHex_shorter h₁
            split at h
            · simp only [Except.ok.injEq, Prod.mk.injEq] at h
              simp only [List.length_cons] at l₀
              rw [← h.2]; omega
            · simp at h
        · simp at h
        · simp at h
      · simp only [Except.ok.injEq, Prod.mk.injEq] at h
        rw [← h.2]; exact l₀

/-- The character that an escape stands for, the backslash having been read. -/
def readEscape : List Char → Read Char
  | [] => .error (.here .endOfText [])
  | '"' :: r => .ok ('"', r)
  | '\\' :: r => .ok ('\\', r)
  | '/' :: r => .ok ('/', r)
  | 'b' :: r => .ok ('\x08', r)
  | 'f' :: r => .ok ('\x0c', r)
  | 'n' :: r => .ok ('\n', r)
  | 'r' :: r => .ok ('\r', r)
  | 't' :: r => .ok ('\t', r)
  | 'u' :: r => readUnicode r
  | s => .error (.next .badEscape s)

private theorem readEscape_shorter {s r : List Char} {c : Char} (h : readEscape s = .ok (c, r)) :
    r.length < s.length := by
  unfold readEscape at h
  split at h
  case h_10 r₀ =>
    have := readUnicode_shorter h
    simp only [List.length_cons]; omega
  all_goals
    first
    | (simp only [Except.ok.injEq, Prod.mk.injEq] at h
       rw [← h.2]; simp)
    | simp at h

/-- The characters of a text up to its closing quote, the opening one having been read. -/
def readText (s : List Char) : Read (List Char) :=
  match s with
  | [] => .error (.here .endOfText [])
  | '"' :: r => .ok ([], r)
  | '\\' :: r =>
    match h : readEscape r with
    | .error e => .error e
    | .ok (c, r') =>
      have := readEscape_shorter h
      match readText r' with
      | .error e => .error e
      | .ok (cs, r'') => .ok (c :: cs, r'')
  | c :: r =>
    if c.toNat < 0x20 then .error (.here .controlInText r)
    else match readText r with
      | .error e => .error e
      | .ok (cs, r') => .ok (c :: cs, r')
termination_by s.length
decreasing_by all_goals (simp only [List.length_cons]; omega)

theorem readText_shorter {s r cs : List Char} (h : readText s = .ok (cs, r)) :
    r.length < s.length := by
  fun_induction readText s generalizing cs r with
  | case1 => simp at h
  | case2 => simp only [Except.ok.injEq, Prod.mk.injEq] at h; rw [← h.2]; simp
  | case3 => simp at h
  | case4 => simp at h
  | case5 r₀ c r₁ h₁ h₂ cs' r₂ h₃ ih =>
    simp only [Except.ok.injEq, Prod.mk.injEq] at h
    have := ih h₃
    rw [← h.2]; simp only [List.length_cons]; omega
  | case6 => simp at h
  | case7 => simp at h
  | case8 c r₀ _ _ _ cs' r₁ h₁ ih =>
    simp only [Except.ok.injEq, Prod.mk.injEq] at h
    have := ih h₁
    rw [← h.2]; simp only [List.length_cons]; omega

/-! ### Numbers -/

/-- A number of a JSON text: an integer that fits 64 bits, with a sign or without one, or else the
double that its text denotes. -/
inductive Number where
  | unsigned (n : Nat)
  | negative (n : Int)
  | double (d : Decimal.Double)
  deriving DecidableEq, Repr

/-- What a number is called where another kind of value was wanted. -/
def Number.found : Number → Found
  | .unsigned n => .integer n
  | .negative n => .integer n
  | .double d => .double d

/-- The greatest number of 64 bits. -/
def wordMax : Nat := UInt64.size - 1

/-- Takes digits into an integer for as long as it stays below the limit; what is left starts with
the first digit that did not fit. -/
def takeDigits (limit : Nat) : Nat → List Char → Nat × List Char
  | n, [] => (n, [])
  | n, c :: s =>
    let n' := n * 10 + (c.toNat - '0'.toNat)
    if n' ≤ limit then takeDigits limit n' s else (n, c :: s)

/-- The double `digits · 10 ^ exponent`, with a rounding at every step: powers up to `10 ^ 308` in
one step, smaller ones by repeated division. -/
def scaleDouble (d : Decimal.Double) (exponent : Int) : Decimal.Double :=
  if 0 ≤ exponent then
    if exponent ≤ 308 then d.mul (.powerOfTen exponent.toNat)
    else if d.isZero then d else .infinite false
  else if -308 ≤ exponent then d.div (.powerOfTen (-exponent).toNat)
  else if d.isZero then d
  else scaleDouble (d.div (.powerOfTen 308)) (exponent + 308)
termination_by exponent.natAbs

/-- The double of digits and an exponent; one beyond the format is a fault. -/
def readScaled (negative : Bool) (digits : Nat) (exponent : Int) (rest : List Char) : Read Number :=
  let d := scaleDouble (.ofNat negative digits) exponent
  if d.isInfinite then .error (.here .numberTooLarge rest) else .ok (.double d, rest)

/-- The greatest exponent that is computed with. -/
def exponentMax : Nat := 2147483647

/-- The digits of an exponent. One beyond 32 bits is a fault, unless the number is zero anyway. -/
def readExponentDigits (negative : Bool) (digits : Nat) (shift : Int) (down : Bool)
    (s : List Char) : Read Number :=
  match s with
  | [] => .error (.here .endOfValue [])
  | c :: _ =>
    if c.isDigit then
      let rest := s.dropWhile Char.isDigit
      match takeDigits exponentMax 0 (s.takeWhile Char.isDigit) with
      | (e, []) =>
        readScaled negative digits (if down then shift - (e : Nat) else shift + (e : Nat)) rest
      | (_, _ :: beyond) =>
        if digits ≠ 0 ∧ !down then .error (.here .numberTooLarge (beyond ++ rest))
        else .ok (.double (.zero negative), rest)
    else .error (.next .badNumber s)

/-- A number from its exponent on, the `e` having been read. -/
def readExponent (negative : Bool) (digits : Nat) (shift : Int) : List Char → Read Number
  | '+' :: r => readExponentDigits negative digits shift false r
  | '-' :: r => readExponentDigits negative digits shift true r
  | s => readExponentDigits negative digits shift false s

/-- A number from its fraction on, the point having been read. Digits of the fraction beyond 64
bits are dropped. -/
def readFraction (negative : Bool) (digits : Nat) (shift : Int) (s : List Char) : Read Number :=
  let ds := s.takeWhile Char.isDigit
  let rest := s.dropWhile Char.isDigit
  match ds, rest with
  | [], [] => .error (.here .endOfValue [])
  | [], _ => .error (.next .badNumber rest)
  | _, _ =>
    let (digits, dropped) := takeDigits wordMax digits ds
    let shift := shift - ((ds.length - dropped.length : Nat) : Int)
    match rest with
    | 'e' :: r => readExponent negative digits shift r
    | 'E' :: r => readExponent negative digits shift r
    | _ => readScaled negative digits shift rest

/-- A number after its digits before the point. Digits beyond 64 bits count as a power of ten. -/
def readAfterDigits (negative : Bool) (digits : Nat) (beyond : Nat) (rest : List Char) :
    Read Number :=
  match rest with
  | '.' :: r => readFraction negative digits beyond r
  | 'e' :: r => readExponent negative digits beyond r
  | 'E' :: r => readExponent negative digits beyond r
  | _ =>
    if beyond ≠ 0 then readScaled negative digits beyond rest
    else if !negative then .ok (.unsigned digits, rest)
    else if digits = 0 ∨ -(digits : Int) < Int64.minValue.toInt then
      .ok (.double (.ofNat true digits), rest)
    else .ok (.negative (-(digits : Int)), rest)

/-- A number without its sign: a single zero, or digits that start with no zero. -/
def readUnsigned (negative : Bool) (s : List Char) : Read Number :=
  match s with
  | [] => .error (.here .endOfValue [])
  | '0' :: r =>
    match r with
    | c :: _ => if c.isDigit then .error (.next .badNumber r) else readAfterDigits negative 0 0 r
    | [] => readAfterDigits negative 0 0 r
  | c :: _ =>
    if c.isDigit then
      let (digits, beyond) := takeDigits wordMax 0 (s.takeWhile Char.isDigit)
      readAfterDigits negative digits beyond.length (s.dropWhile Char.isDigit)
    else .error (.next .badNumber s)

/-- A number. -/
def readNumber : List Char → Read Number
  | '-' :: r => readUnsigned true r
  | s => readUnsigned false s

private theorem readScaled_rest {neg : Bool} {digits : Nat} {e : Int} {s r : List Char} {n : Number}
    (h : readScaled neg digits e s = .ok (n, r)) : r = s := by
  unfold readScaled at h
  simp only at h
  split at h
  · simp at h
  · simp only [Except.ok.injEq, Prod.mk.injEq] at h; exact h.2.symm

theorem dropDigits_length_le (s : List Char) : (s.dropWhile Char.isDigit).length ≤ s.length :=
  (List.dropWhile_sublist _).length_le

private theorem readExponentDigits_le {neg down : Bool} {digits : Nat} {e : Int} {s r : List Char}
    {n : Number} (h : readExponentDigits neg digits e down s = .ok (n, r)) :
    r.length ≤ s.length := by
  unfold readExponentDigits at h
  split at h
  · simp at h
  · split at h
    · simp only at h
      split at h
      · rw [readScaled_rest h]; exact dropDigits_length_le _
      · split at h
        · simp at h
        · simp only [Except.ok.injEq, Prod.mk.injEq] at h
          rw [← h.2]; exact dropDigits_length_le _
    · simp at h

private theorem readExponent_le {neg : Bool} {digits : Nat} {e : Int} {s r : List Char} {n : Number}
    (h : readExponent neg digits e s = .ok (n, r)) : r.length ≤ s.length := by
  unfold readExponent at h
  split at h
  · exact Nat.le_succ_of_le (readExponentDigits_le h)
  · exact Nat.le_succ_of_le (readExponentDigits_le h)
  · exact readExponentDigits_le h

private theorem readFraction_le {neg : Bool} {digits : Nat} {e : Int} {s r : List Char} {n : Number}
    (h : readFraction neg digits e s = .ok (n, r)) : r.length ≤ s.length := by
  have hd := dropDigits_length_le s
  unfold readFraction at h
  simp only at h
  split at h
  · simp at h
  · simp at h
  · split at h
    · next hr =>
      have := readExponent_le h
      rw [hr] at hd; simp only [List.length_cons] at hd; omega
    · next hr =>
      have := readExponent_le h
      rw [hr] at hd; simp only [List.length_cons] at hd; omega
    · rw [readScaled_rest h]; exact hd

private theorem readAfterDigits_le {neg : Bool} {digits beyond : Nat} {s r : List Char} {n : Number}
    (h : readAfterDigits neg digits beyond s = .ok (n, r)) : r.length ≤ s.length := by
  unfold readAfterDigits at h
  split at h
  · exact Nat.le_succ_of_le (readFraction_le h)
  · exact Nat.le_succ_of_le (readExponent_le h)
  · exact Nat.le_succ_of_le (readExponent_le h)
  · repeat' split at h
    · exact Nat.le_of_eq (congrArg _ (readScaled_rest h))
    all_goals
      simp only [Except.ok.injEq, Prod.mk.injEq] at h
      exact Nat.le_of_eq (congrArg _ h.2.symm)

private theorem readUnsigned_shorter {neg : Bool} {s r : List Char} {n : Number}
    (h : readUnsigned neg s = .ok (n, r)) : r.length < s.length := by
  unfold readUnsigned at h
  split at h
  · simp at h
  · split at h
    · split at h
      · simp at h
      · exact Nat.lt_succ_of_le (readAfterDigits_le h)
    · exact Nat.lt_succ_of_le (readAfterDigits_le h)
  · next c t _ =>
    split at h
    · next hc =>
      have h1 := readAfterDigits_le h
      simp only [List.dropWhile_cons, hc, if_true] at h1
      exact Nat.lt_succ_of_le (Nat.le_trans h1 (dropDigits_length_le t))
    · simp at h

theorem readNumber_shorter {s r : List Char} {n : Number} (h : readNumber s = .ok (n, r)) :
    r.length < s.length := by
  unfold readNumber at h
  split at h
  · exact Nat.lt_succ_of_lt (readUnsigned_shorter h)
  · exact readUnsigned_shorter h

/-! ### Literals, and values of the wrong kind -/

/-- Reads the given characters, which continue a literal. -/
def readLiteral : List Char → List Char → Except Fault (List Char)
  | [], s => .ok s
  | _ :: _, [] => .error (.here .endOfValue [])
  | w :: ws, c :: s => if c = w then readLiteral ws s else .error (.next .literalWanted (c :: s))

theorem readLiteral_le {ws s r : List Char} (h : readLiteral ws s = .ok r) :
    r.length ≤ s.length := by
  fun_induction readLiteral ws s with
  | case1 => simp only [Except.ok.injEq] at h; exact h ▸ Nat.le_refl _
  | case2 => simp at h
  | case3 _ _ _ ih => exact Nat.le_succ_of_le (ih h)
  | case4 => simp at h

/-- What stands at the start of the text, with the text after it. Of a list or an object the
opening bracket is enough, and stays unread. -/
def readFound (s : List Char) : Read Found :=
  match s with
  | [] => .error (.here .endOfValue [])
  | 'n' :: r => (readLiteral ['u', 'l', 'l'] r).map (Found.null, ·)
  | 't' :: r => (readLiteral ['r', 'u', 'e'] r).map (Found.bool true, ·)
  | 'f' :: r => (readLiteral ['a', 'l', 's', 'e'] r).map (Found.bool false, ·)
  | '"' :: r => (readText r).map fun (cs, r) => (Found.text cs, r)
  | '[' :: _ => .ok (.list, s)
  | '{' :: _ => .ok (.object, s)
  | c :: _ =>
    if c = '-' ∨ c.isDigit then (readNumber s).map fun (n, r) => (n.found, r)
    else .error (.next .valueWanted s)

/-- The fault of a value that is not of the wanted kind. -/
def mismatch (wanted : String) (s : List Char) : Fault :=
  match readFound s with
  | .ok (found, r) => .here (.mismatch found wanted) r
  | .error e => e

/-! ### The readers of the leaves -/

/-- An unsigned integer of at most the given size. -/
def natural (max : Nat) (wanted : String) : Reader Nat where
  run s :=
    match skipSpace s with
    | [] => .error (.here .endOfValue [])
    | c :: r =>
      if c = '-' ∨ c.isDigit then
        match readNumber (c :: r) with
        | .error e => .error e
        | .ok (.unsigned n, r) =>
          if n ≤ max then .ok (n, r) else .error (.here (.outOfRange n wanted) r)
        | .ok (.negative n, r) => .error (.here (.outOfRange n wanted) r)
        | .ok (.double d, r) => .error (.here (.mismatch (.double d) wanted) r)
      else .error (mismatch wanted (c :: r))
  shorter := by
    intro s a r h
    have hs := skipSpace_length_le s
    split at h
    · simp at h
    · next c t ht =>
      rw [ht] at hs
      split at h
      · split at h
        · simp at h
        · next n r' hn =>
          split at h
          · simp only [Except.ok.injEq, Prod.mk.injEq] at h
            exact Nat.lt_of_lt_of_le (h.2 ▸ readNumber_shorter hn) hs
          · simp at h
        · simp at h
        · simp at h
      · simp at h

/-- A text in quotes, taken through a check that may refuse it. -/
def textVia {α : Type} (wanted : String) (check : List Char → Except String α) : Reader α where
  run s :=
    match skipSpace s with
    | [] => .error (.here .endOfValue [])
    | '"' :: r =>
      match readText r with
      | .error e => .error e
      | .ok (cs, r) =>
        match check cs with
        | .ok a => .ok (a, r)
        | .error reason => .error (.here (.refused reason) r)
    | s => .error (mismatch wanted s)
  shorter := by
    intro s a r h
    have hs := skipSpace_length_le s
    split at h
    · simp at h
    · next t ht =>
      rw [ht] at hs
      split at h
      · simp at h
      · next cs r' hn =>
        split at h
        · simp only [Except.ok.injEq, Prod.mk.injEq] at h
          have := readText_shorter hn
          simp only [List.length_cons] at hs
          rw [← h.2]; omega
        · simp at h
    · simp at h

/-- A text in quotes. -/
def text : Reader String :=
  textVia "a string" fun cs => .ok (String.ofList cs)

end ProcTrace.Json
