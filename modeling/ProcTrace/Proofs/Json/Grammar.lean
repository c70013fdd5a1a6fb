import ProcTrace.Json.Skip

/-!
# The grammar of JSON texts

What a JSON text is, said without a reader. A text **spells** a value up to some point: it starts
with a text of the value, and goes on from there (`Spells`). A **value** keeps what a reader may ask
for, and no layout: the literal of a number, the parts of a text in quotes, elements and members in
their order, repeated members included.

Texts in quotes are spelled by their parts (`SpellsText`). An escape by number gives only a code
unit, and it may take two of these to make a character. Which characters all parts make together, if
they make any, is said by `decode`: there are texts in quotes that stand for no text of characters,
and a reader may still run over them.

Digits and spaces are taken as far as they go, so that no text spells two values.
-/

namespace ProcTrace.Json

/-! ### Texts in quotes -/

/-- A part of a text in quotes: a character, or the number of a `\u` escape. -/
inductive Part where
  | char (c : Char)
  | unit (n : Nat)
  deriving DecidableEq, Repr

/-- The characters that a backslash and one letter stand for. -/
def shortEscapes : List (Char × Char) :=
  [('"', '"'), ('\\', '\\'), ('/', '/'), ('b', '\x08'), ('f', '\x0c'), ('n', '\n'), ('r', '\r'),
    ('t', '\t')]

/-- The text starts with four hexadecimal digits, which have a number. -/
inductive SpellsUnit : List Char → Nat → List Char → Prop where
  | digits {a b c d : Char} {a' b' c' d' : Nat} {r : List Char} (ha : hexDigit? a = some a')
      (hb : hexDigit? b = some b') (hc : hexDigit? c = some c') (hd : hexDigit? d = some d') :
      SpellsUnit (a :: b :: c :: d :: r) (((a' * 16 + b') * 16 + c') * 16 + d') r

/-- The text starts with a part of a text in quotes. -/
inductive SpellsPart : List Char → Part → List Char → Prop where
  | plain {c : Char} {r : List Char} (hquote : c ≠ '"') (hslash : c ≠ '\\')
      (hcontrol : ¬ c.toNat < 0x20) : SpellsPart (c :: r) (.char c) r
  | short {c d : Char} {r : List Char} (h : shortEscapes.lookup c = some d) :
      SpellsPart ('\\' :: c :: r) (.char d) r
  | unit {s r : List Char} {n : Nat} (h : SpellsUnit s n r) :
      SpellsPart ('\\' :: 'u' :: s) (.unit n) r

/-- The text starts with parts and the quote after them. -/
inductive SpellsText : List Char → List Part → List Char → Prop where
  | close {r : List Char} : SpellsText ('"' :: r) [] r
  | more {s t r : List Char} {p : Part} {ps : List Part} (hp : SpellsPart s p t)
      (hps : SpellsText t ps r) : SpellsText s (p :: ps) r

/-- The characters that the parts of a text make. A character beyond U+FFFF is made of two units,
its surrogates; a surrogate by itself makes no character. -/
def decode : List Part → Option (List Char)
  | [] => some []
  | .char c :: ps => (decode ps).map (c :: ·)
  | .unit n :: ps =>
    if isTrailSurrogate n then none
    else if isLeadSurrogate n then
      match ps with
      | .unit m :: ps =>
        if isTrailSurrogate m then (decode ps).map (joinSurrogates n m :: ·) else none
      | _ => none
    else (decode ps).map (Char.ofNat n :: ·)

/-! ### Numbers -/

/-- The text starts with digits, of which there is at least one. -/
inductive SpellsDigits : List Char → List Char → Prop where
  | digits {c : Char} (hc : c.isDigit) (s : List Char) :
      SpellsDigits (c :: s) (s.dropWhile Char.isDigit)

/-- The text starts with the digits of an integer: a single zero, or digits that start with no
zero. -/
inductive SpellsInteger : List Char → List Char → Prop where
  | zero {r : List Char} (h : ∀ c ∈ r.head?, ¬ c.isDigit) : SpellsInteger ('0' :: r) r
  | digits {s r : List Char} (h : SpellsDigits s r) (hzero : s.head? ≠ some '0') :
      SpellsInteger s r

/-- The text starts with a fraction, or has none. -/
inductive SpellsFraction : List Char → List Char → Prop where
  | absent {r : List Char} (h : r.head? ≠ some '.') : SpellsFraction r r
  | present {s r : List Char} (h : SpellsDigits s r) : SpellsFraction ('.' :: s) r

/-- The text starts with an exponent, or has none. -/
inductive SpellsExponent : List Char → List Char → Prop where
  | absent {r : List Char} (h : r.head? ≠ some 'e') (h' : r.head? ≠ some 'E') : SpellsExponent r r
  | present {mark : Char} {sign s r : List Char} (hmark : mark = 'e' ∨ mark = 'E')
      (hsign : sign = [] ∨ sign = ['+'] ∨ sign = ['-']) (h : SpellsDigits s r) :
      SpellsExponent (mark :: (sign ++ s)) r

/-- The text starts with a number without its sign. -/
inductive SpellsUnsigned : List Char → List Char → Prop where
  | parts {s t u r : List Char} (hinteger : SpellsInteger s t) (hfraction : SpellsFraction t u)
      (hexponent : SpellsExponent u r) : SpellsUnsigned s r

/-- The text starts with a number. -/
inductive SpellsNumber : List Char → List Char → Prop where
  | unsigned {s r : List Char} (h : SpellsUnsigned s r) : SpellsNumber s r
  | negative {s r : List Char} (h : SpellsUnsigned s r) : SpellsNumber ('-' :: s) r

/-! ### Values -/

/-- What a JSON text stands for. Keys are texts in quotes, too. -/
inductive Value where
  | null
  | bool (b : Bool)
  | number (literal : List Char)
  | text (parts : List Part)
  | list (elements : List Value)
  | object (members : List (List Part × Value))

/-- The text starts with a key and the colon after it, apart from spaces. -/
inductive SpellsKey : List Char → List Part → List Char → Prop where
  | quoted {s t u r : List Char} {k : List Part} (h : skipSpace s = '"' :: t)
      (hk : SpellsText t k u) (hcolon : skipSpace u = ':' :: r) : SpellsKey s k r

mutual

/-- The text **spells** a value: it starts with a text of the value, apart from spaces. -/
inductive Spells : List Char → Value → List Char → Prop where
  | null {s r : List Char} (h : skipSpace s = 'n' :: 'u' :: 'l' :: 'l' :: r) : Spells s .null r
  | true {s r : List Char} (h : skipSpace s = 't' :: 'r' :: 'u' :: 'e' :: r) :
      Spells s (.bool true) r
  | false {s r : List Char} (h : skipSpace s = 'f' :: 'a' :: 'l' :: 's' :: 'e' :: r) :
      Spells s (.bool false) r
  | number {s l r : List Char} (h : SpellsNumber (skipSpace s) r) (hl : skipSpace s = l ++ r) :
      Spells s (.number l) r
  | text {s t r : List Char} {ps : List Part} (h : skipSpace s = '"' :: t)
      (hps : SpellsText t ps r) : Spells s (.text ps) r
  | list {s t r : List Char} {vs : List Value} (h : skipSpace s = '[' :: t)
      (hvs : SpellsElements true t vs r) : Spells s (.list vs) r
  | object {s t r : List Char} {ms : List (List Part × Value)} (h : skipSpace s = '{' :: t)
      (hms : SpellsMembers true t ms r) : Spells s (.object ms) r

/-- The text starts with elements and the bracket after them. There is a comma before every element
but the first. -/
inductive SpellsElements : Bool → List Char → List Value → List Char → Prop where
  | close {first : Bool} {s r : List Char} (h : skipSpace s = ']' :: r) :
      SpellsElements first s [] r
  | first {s t r : List Char} {v : Value} {vs : List Value} (hv : Spells s v t)
      (hvs : SpellsElements false t vs r) : SpellsElements true s (v :: vs) r
  | next {s t u r : List Char} {v : Value} {vs : List Value} (h : skipSpace s = ',' :: t)
      (hv : Spells t v u) (hvs : SpellsElements false u vs r) : SpellsElements false s (v :: vs) r

/-- The text starts with members and the brace after them. There is a comma before every member but
the first. -/
inductive SpellsMembers : Bool → List Char → List (List Part × Value) → List Char → Prop where
  | close {first : Bool} {s r : List Char} (h : skipSpace s = '}' :: r) :
      SpellsMembers first s [] r
  | first {s t u r : List Char} {k : List Part} {v : Value} {ms : List (List Part × Value)}
      (hk : SpellsKey s k t) (hv : Spells t v u) (hms : SpellsMembers false u ms r) :
      SpellsMembers true s ((k, v) :: ms) r
  | next {s t u w r : List Char} {k : List Part} {v : Value} {ms : List (List Part × Value)}
      (h : skipSpace s = ',' :: t) (hk : SpellsKey t k u) (hv : Spells u v w)
      (hms : SpellsMembers false w ms r) : SpellsMembers false s ((k, v) :: ms) r

end

/-- The whole text **is a text of** a value: nothing but spaces follows it. -/
def IsTextOf (whole : List Char) (v : Value) : Prop :=
  ∃ r, Spells whole v r ∧ skipSpace r = []

end ProcTrace.Json
