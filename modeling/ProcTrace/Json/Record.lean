import ProcTrace.Json.Skip

/-!
# Lists and records

Readers of lists whose elements have a reader, and of **records**: objects with named members in
any order, of which unknown ones are skipped and known ones may occur once. A record may also stand
as the list of its members' values in their order.

A record is read into a *draft*, which collects the members seen so far; at the end the draft
becomes a value or names the member that is missing.
-/

namespace ProcTrace.Json

/-! ### Separators and brackets -/

/-- Whether a list or an object goes on, with the text from there on. -/
inductive Next (α : Type) where
  | done (rest : List Char)
  | more (a : α) (rest : List Char)

/-- Looks for the next element of a list. -/
def nextElement (first : Bool) (s : List Char) : Except Fault (Next Unit) :=
  match skipSpace s with
  | [] => .error (.here .endOfList [])
  | ']' :: r => .ok (.done (']' :: r))
  | c :: r =>
    if first then .ok (.more () (c :: r))
    else if c = ',' then
      match skipSpace r with
      | [] => .error (.here .endOfValue [])
      | ']' :: r => .error (.next .trailingComma (']' :: r))
      | r => .ok (.more () r)
    else .error (.next .listCommaOrEndWanted (c :: r))

/-- Reads a key, whose opening quote is due, and the text after it. -/
def readKey (absent : Cause) (s : List Char) : Except Fault (Next (List Char)) :=
  match s with
  | [] => .error (.here absent [])
  | '"' :: r =>
    match readText r with
    | .error e => .error e
    | .ok (k, r) => .ok (.more k r)
  | s => .error (.next .keyNotText s)

/-- Looks for the next member of an object and reads its key. -/
def nextKey (first : Bool) (s : List Char) : Except Fault (Next (List Char)) :=
  match skipSpace s with
  | [] => .error (.here .endOfObject [])
  | '}' :: r => .ok (.done ('}' :: r))
  | c :: r =>
    if first then readKey .endOfObject (c :: r)
    else if c = ',' then
      match skipSpace r with
      | '}' :: r => .error (.next .trailingComma ('}' :: r))
      | r => readKey .endOfValue r
    else .error (.next .objectCommaOrEndWanted (c :: r))

/-- Reads the colon after a key. -/
def readColon (s : List Char) : Except Fault (List Char) :=
  match skipSpace s with
  | [] => .error (.here .endOfObject [])
  | ':' :: r => .ok r
  | r => .error (.next .colonWanted r)

/-- Reads the end of a list. -/
def closeList (s : List Char) : Except Fault (List Char) :=
  match skipSpace s with
  | [] => .error (.here .endOfList [])
  | ']' :: r => .ok r
  | ',' :: r =>
    match skipSpace r with
    | ']' :: r => .error (.next .trailingComma (']' :: r))
    | r => .error (.next .trailingText r)
  | r => .error (.next .trailingText r)

/-- Reads the end of an object. -/
def closeObject (s : List Char) : Except Fault (List Char) :=
  match skipSpace s with
  | [] => .error (.here .endOfObject [])
  | '}' :: r => .ok r
  | ',' :: r => .error (.next .trailingComma (',' :: r))
  | r => .error (.next .trailingText r)

/-- Where a fault about a list as a whole is noticed: past its end, or past the comma that stands
in place of its end. -/
def pastList (s : List Char) : List Char :=
  match skipSpace s with
  | ']' :: r => r
  | ',' :: r => skipSpace r
  | r => r

/-- Where a fault about an object as a whole is noticed: past its end if that comes next. -/
def pastObject (s : List Char) : List Char :=
  match skipSpace s with
  | '}' :: r => r
  | r => r

private theorem nextElement_more {first : Bool} {s r : List Char} {u : Unit}
    (h : nextElement first s = .ok (.more u r)) : r.length ≤ s.length := by
  have hs := skipSpace_length_le s
  unfold nextElement at h
  split at h
  · simp at h
  · simp at h
  · next c t _ ht =>
    rw [ht] at hs
    split at h
    · simp only [Except.ok.injEq, Next.more.injEq] at h
      rw [← h.2]; exact hs
    · split at h
      · have ht' := skipSpace_length_le t
        split at h
        · simp at h
        · simp at h
        · simp only [Except.ok.injEq, Next.more.injEq] at h
          simp only [List.length_cons] at hs
          rw [← h.2]; omega
      · simp at h

private theorem nextElement_done {first : Bool} {s r : List Char}
    (h : nextElement first s = .ok (.done r)) : r.length ≤ s.length := by
  have hs := skipSpace_length_le s
  unfold nextElement at h
  split at h
  · simp at h
  · next ht =>
    simp only [Except.ok.injEq, Next.done.injEq] at h
    rw [← h, ← ht]; exact hs
  · split at h
    · simp at h
    · split at h
      · split at h <;> simp at h
      · simp at h

private theorem readKey_more {absent : Cause} {s k r : List Char}
    (h : readKey absent s = .ok (.more k r)) : r.length < s.length := by
  unfold readKey at h
  split at h
  · simp at h
  · split at h
    · simp at h
    · next hk =>
      simp only [Except.ok.injEq, Next.more.injEq] at h
      have := readText_shorter hk
      simp only [List.length_cons]
      rw [← h.2]; omega
  · simp at h

theorem readKey_done {absent : Cause} {s r : List Char} :
    readKey absent s ≠ .ok (.done r) := by
  intro h
  unfold readKey at h
  split at h
  · simp at h
  · split at h <;> simp at h
  · simp at h

private theorem nextKey_more {first : Bool} {s k r : List Char}
    (h : nextKey first s = .ok (.more k r)) : r.length < s.length := by
  have hs := skipSpace_length_le s
  unfold nextKey at h
  split at h
  · simp at h
  · simp at h
  · next c t _ ht =>
    rw [ht] at hs
    split at h
    · exact Nat.lt_of_lt_of_le (readKey_more h) hs
    · split at h
      · have ht' := skipSpace_length_le t
        split at h
        · simp at h
        · have := readKey_more h
          simp only [List.length_cons] at hs; omega
      · simp at h

private theorem nextKey_done {first : Bool} {s r : List Char}
    (h : nextKey first s = .ok (.done r)) : r.length ≤ s.length := by
  have hs := skipSpace_length_le s
  unfold nextKey at h
  split at h
  · simp at h
  · next ht =>
    simp only [Except.ok.injEq, Next.done.injEq] at h
    rw [← h, ← ht]; exact hs
  · split at h
    · exact absurd h readKey_done
    · split at h
      · split at h
        · simp at h
        · exact absurd h readKey_done
      · simp at h

private theorem readColon_shorter {s r : List Char} (h : readColon s = .ok r) :
    r.length < s.length := by
  have hs := skipSpace_length_le s
  unfold readColon at h
  split at h
  · simp at h
  · next ht =>
    simp only [Except.ok.injEq] at h
    rw [ht] at hs; rw [← h]; exact hs
  · simp at h

private theorem closeList_shorter {s r : List Char} (h : closeList s = .ok r) :
    r.length < s.length := by
  have hs := skipSpace_length_le s
  unfold closeList at h
  split at h
  · simp at h
  · next ht =>
    simp only [Except.ok.injEq] at h
    rw [ht] at hs; rw [← h]; exact hs
  · split at h <;> simp at h
  · simp at h

private theorem closeObject_shorter {s r : List Char} (h : closeObject s = .ok r) :
    r.length < s.length := by
  have hs := skipSpace_length_le s
  unfold closeObject at h
  split at h
  · simp at h
  · next ht =>
    simp only [Except.ok.injEq] at h
    rw [ht] at hs; rw [← h]; exact hs
  · simp at h
  · simp at h

/-! ### Lists -/

/-- The elements of a list up to its end. -/
def readElements {α : Type} (x : Reader α) (first : Bool) (s : List Char) : Read (List α) :=
  match hn : nextElement first s with
  | .error e => .error e
  | .ok (.done r) => .ok ([], r)
  | .ok (.more _ r) =>
    match hx : x.run r with
    | .error e => .error e
    | .ok (a, r') =>
      have : r'.length < s.length := Nat.lt_of_lt_of_le (x.shorter hx) (nextElement_more hn)
      match readElements x false r' with
      | .error e => .error e
      | .ok (as, r'') => .ok (a :: as, r'')
termination_by s.length

private theorem readElements_le {α : Type} {x : Reader α} {first : Bool} {s r : List Char}
    {as : List α} (h : readElements x first s = .ok (as, r)) : r.length ≤ s.length := by
  fun_induction readElements x first s generalizing as r with
  | case1 => simp at h
  | case2 _ _ r' hn =>
    simp only [Except.ok.injEq, Prod.mk.injEq] at h
    rw [← h.2]; exact nextElement_done hn
  | case3 => simp at h
  | case4 => simp at h
  | case5 _ _ _ _ _ _ _ _ hlt as' r'' hr ih =>
    simp only [Except.ok.injEq, Prod.mk.injEq] at h
    have := ih hr
    rw [← h.2]; omega

/-- A list of values that `x` reads. -/
def list {α : Type} (x : Reader α) : Reader (List α) where
  run s :=
    match skipSpace s with
    | [] => .error (.here .endOfValue [])
    | '[' :: r =>
      match readElements x true r with
      | .error e => .error e
      | .ok (as, r) =>
        match closeList r with
        | .error e => .error e
        | .ok r => .ok (as, r)
    | s => .error (mismatch "a sequence" s)
  shorter := by
    intro s as r h
    have hs := skipSpace_length_le s
    split at h
    · simp at h
    · next t ht =>
      rw [ht] at hs
      split at h
      · simp at h
      · next he =>
        split at h
        · simp at h
        · next hc =>
          simp only [Except.ok.injEq, Prod.mk.injEq] at h
          have h1 := readElements_le he
          have h2 := closeList_shorter hc
          simp only [List.length_cons] at hs
          rw [← h.2]; omega
    · simp at h

/-! ### Records -/

/-- A member of a record: its name, whether a list in place of the record must reach it, whether a
draft has it already, and the reader of its value. -/
structure Member (σ : Type) where
  key : String
  required : Bool
  given : σ → Bool
  value : Reader (σ → σ)

/-- A record with drafts of type `σ` and values of type `α`. -/
structure Record (σ α : Type) where
  name : String
  members : List (Member σ)
  draft : σ
  /-- The value of a draft, or the name of the first member that it lacks. -/
  build : σ → Except String α

namespace Record

variable {σ α : Type}

/-- What a record is called where something else was found. -/
def wanted (x : Record σ α) : String :=
  s!"struct {x.name}"

/-- What a record is called where a list in its place was too short. -/
def wantedLength (x : Record σ α) : String :=
  let n := x.members.length
  s!"struct {x.name} with {n} " ++ if n = 1 then "element" else "elements"

/-- The members of an object up to its end. -/
def readMembers (members : List (Member σ)) (draft : σ) (first : Bool) (s : List Char) : Read σ :=
  match hk : nextKey first s with
  | .error e => .error e
  | .ok (.done r) => .ok (draft, r)
  | .ok (.more key r) =>
    have hr : r.length < s.length := nextKey_more hk
    match members.find? (·.key.toList == key) with
    | some m =>
      if m.given draft then .error (.here (.repeated m.key) (pastObject r))
      else
        match hc : readColon r with
        | .error e => .error e
        | .ok r₁ =>
          match hv : m.value.run r₁ with
          | .error e => .error e
          | .ok (put, r₂) =>
            have : r₂.length < s.length :=
              Nat.lt_trans (m.value.shorter hv) (Nat.lt_trans (readColon_shorter hc) hr)
            readMembers members (put draft) false r₂
    | none =>
      match hc : readColon r with
      | .error e => .error e
      | .ok r₁ =>
        match hv : skipValue r₁ with
        | .error e => .error e
        | .ok r₂ =>
          have : r₂.length < s.length :=
            Nat.lt_trans (skipValue_shorter hv) (Nat.lt_trans (readColon_shorter hc) hr)
          readMembers members draft false r₂
termination_by s.length

/-- The values of the members in their order, up to the end of a list. -/
def readPositions (wanted : String) (members : List (Member σ)) (draft : σ) (index : Nat)
    (first : Bool) (s : List Char) : Read σ :=
  match members with
  | [] => .ok (draft, s)
  | m :: ms =>
    match nextElement first s with
    | .error e => .error e
    | .ok (.done r) =>
      if m.required then .error (.here (.tooShort index wanted) (pastList r))
      else readPositions wanted ms draft (index + 1) first r
    | .ok (.more _ r) =>
      match m.value.run r with
      | .error e => .error e
      | .ok (put, r) => readPositions wanted ms (put draft) (index + 1) false r

private theorem readMembers_le {members : List (Member σ)} {draft d : σ} {first : Bool}
    {s r : List Char}
    (h : readMembers members draft first s = .ok (d, r)) : r.length ≤ s.length := by
  fun_induction readMembers members draft first s with
  | case1 => simp at h
  | case2 _ _ _ _ hk =>
    simp only [Except.ok.injEq, Prod.mk.injEq] at h
    rw [← h.2]; exact nextKey_done hk
  | case3 => simp at h
  | case4 => simp at h
  | case5 => simp at h
  | case6 =>
    rename_i hlt ih
    have := ih h; omega
  | case7 => simp at h
  | case8 => simp at h
  | case9 =>
    rename_i hlt ih
    have := ih h; omega

private theorem readPositions_le {wanted : String} {members : List (Member σ)} {draft d : σ}
    {index : Nat} {first : Bool} {s r : List Char}
    (h : readPositions wanted members draft index first s = .ok (d, r)) :
    r.length ≤ s.length := by
  induction members generalizing draft index first s with
  | nil => simp only [readPositions, Except.ok.injEq, Prod.mk.injEq] at h; exact h.2 ▸ Nat.le_refl _
  | cons m ms ih =>
    unfold readPositions at h
    split at h
    · simp at h
    · next hn =>
      split at h
      · simp at h
      · exact Nat.le_trans (ih h) (nextElement_done hn)
    · next hn =>
      split at h
      · simp at h
      · next hv =>
        have := ih h
        have := m.value.shorter hv
        have := nextElement_more hn
        omega

/-- Reads the record, the whole text being an object or a list. -/
def read (x : Record σ α) (s : List Char) : Read α :=
  match skipSpace s with
  | [] => .error (.here .endOfValue [])
  | '{' :: r =>
    match readMembers x.members x.draft true r with
    | .error e => .error e
    | .ok (draft, r) =>
      match x.build draft with
      | .error key => .error (.here (.missing key) (pastObject r))
      | .ok a =>
        match closeObject r with
        | .error e => .error e
        | .ok r => .ok (a, r)
  | '[' :: r =>
    match readPositions x.wantedLength x.members x.draft 0 true r with
    | .error e => .error e
    | .ok (draft, r) =>
      match x.build draft with
      | .error key => .error (.here (.missing key) (pastList r))
      | .ok a =>
        match closeList r with
        | .error e => .error e
        | .ok r => .ok (a, r)
  | s => .error (mismatch x.wanted s)

/-- The reader of a record. -/
def reader (x : Record σ α) : Reader α where
  run := x.read
  shorter := by
    intro s a r h
    have hs := skipSpace_length_le s
    unfold read at h
    split at h
    · simp at h
    · next t ht =>
      rw [ht] at hs
      split at h
      · simp at h
      · next hm =>
        split at h
        · simp at h
        · split at h
          · simp at h
          · next hc =>
            simp only [Except.ok.injEq, Prod.mk.injEq] at h
            have h1 := readMembers_le hm
            have h2 := closeObject_shorter hc
            simp only [List.length_cons] at hs
            rw [← h.2]; omega
    · next t ht =>
      rw [ht] at hs
      split at h
      · simp at h
      · next hm =>
        split at h
        · simp at h
        · split at h
          · simp at h
          · next hc =>
            simp only [Except.ok.injEq, Prod.mk.injEq] at h
            have h1 := readPositions_le hm
            have h2 := closeList_shorter hc
            simp only [List.length_cons] at hs
            rw [← h.2]; omega
    · simp at h

end Record

/-- A member that a draft must have. -/
def need {α : Type} (key : String) : Option α → Except String α
  | some a => .ok a
  | none => .error key

/-- The value that a whole text holds: nothing but spaces may follow it. -/
def parse {α : Type} (x : Reader α) (whole : List Char) : Except Fault α :=
  match x.run whole with
  | .error e => .error e
  | .ok (a, r) =>
    match skipSpace r with
    | [] => .ok a
    | r => .error (.next .trailingText r)

end ProcTrace.Json
