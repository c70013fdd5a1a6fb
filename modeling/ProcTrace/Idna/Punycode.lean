/-!
# Punycode

The writing of a label with characters outside ASCII in letters, digits and hyphens: the characters
of ASCII come first, and after a hyphen the others in the order of their numbers, each as the number
of insertion steps since the one before it. Numbers are written to a base of 36 with the least
digit first, and a digit below a *threshold* ends them; the thresholds adapt to the numbers written
so far.
-/

namespace ProcTrace.Idna.Punycode

/-- The character of a digit below 36. -/
def digitChar (d : Nat) : Char :=
  if d < 26 then Char.ofNat ('a'.toNat + d) else Char.ofNat ('0'.toNat + (d - 26))

/-- The digit of a character. -/
def digit? (c : Char) : Option Nat :=
  if 'a' ≤ c ∧ c ≤ 'z' then some (c.toNat - 'a'.toNat)
  else if 'A' ≤ c ∧ c ≤ 'Z' then some (c.toNat - 'A'.toNat)
  else if '0' ≤ c ∧ c ≤ '9' then some (c.toNat - '0'.toNat + 26)
  else none

/-- The threshold at a position, which is a multiple of 36. -/
def threshold (bias k : Nat) : Nat :=
  if k ≤ bias then 1 else if bias + 26 ≤ k then 26 else k - bias

private theorem threshold_mem (bias k : Nat) : 1 ≤ threshold bias k ∧ threshold bias k ≤ 26 := by
  unfold threshold; split
  · omega
  · split <;> omega

/-- The number divided by 35 until it is small, with 36 for every division. -/
def shrink (delta k : Nat) : Nat × Nat :=
  if 455 < delta then shrink (delta / 35) (k + 36) else (delta, k)
termination_by delta
decreasing_by omega

/-- The bias after a number that was written for the given count of characters. -/
def adapt (delta count : Nat) (isFirst : Bool) : Nat :=
  let delta := if isFirst then delta / 700 else delta / 2
  let (delta, k) := shrink (delta + delta / count) 0
  k + 36 * delta / (delta + 38)

/-- The digits of a number. -/
def writeNumber (bias k n : Nat) : List Char :=
  let t := threshold bias k
  if n < t then [digitChar n]
  else digitChar (t + (n - t) % (36 - t)) :: writeNumber bias (k + 36) ((n - t) / (36 - t))
termination_by n
decreasing_by
  have h := threshold_mem bias k
  exact Nat.lt_of_le_of_lt (Nat.div_le_self _ _) (by omega)

/-- Where the writing stands: the output, the steps since the last character written, the bias,
and the number of characters that have been written. -/
structure Progress where
  output : List Char
  delta : Nat
  bias : Nat
  count : Nat

/-- Writes all occurrences of one character of the label, after those with smaller numbers. -/
def Progress.write (label : List Char) (basic : Nat) (p : Progress) (m : Nat) : Progress :=
  label.foldl (fun p c =>
    if c.toNat < m then { p with delta := p.delta + 1 }
    else if c.toNat = m then
      { output := p.output ++ writeNumber p.bias 36 p.delta
        delta := 0
        bias := adapt p.delta (p.count + 1) (p.count = basic)
        count := p.count + 1 }
    else p) p

/-- The letters, digits and hyphens that stand for a label. -/
def encode (label : List Char) : List Char :=
  let basic := label.filter (·.toNat < 0x80)
  let others := ((label.map Char.toNat).filter (0x80 ≤ ·)).eraseDups.mergeSort
  let start : Progress := ⟨[], 0, 72, basic.length⟩
  let (p, _) := others.foldl (fun (p, n) m =>
    let p := { p with delta := p.delta + (m - n) * (p.count + 1) }
    let p := p.write label basic.length m
    ({ p with delta := p.delta + 1 }, m + 1)) (start, 0x80)
  basic ++ (if basic = [] then [] else ['-']) ++ p.output

/-- A number from its digits, added to what has been counted, with the text after it. -/
def readNumber (bias : Nat) : Nat → Nat → Nat → List Char → Option (Nat × List Char)
  | _, _, _, [] => none
  | k, weight, n, c :: r =>
    match digit? c with
    | none => none
    | some d =>
      let t := threshold bias k
      let n := n + d * weight
      if d < t then some (n, r) else readNumber bias (k + 36) (weight * (36 - t)) n r

theorem readNumber_shorter {bias k weight n m : Nat} {s r : List Char}
    (h : readNumber bias k weight n s = some (m, r)) : r.length < s.length := by
  induction s generalizing k weight n with
  | nil => simp [readNumber] at h
  | cons c s ih =>
    unfold readNumber at h
    split at h
    · simp at h
    · simp only at h
      split at h
      · simp only [Option.some.injEq, Prod.mk.injEq] at h; rw [← h.2]; simp
      · exact Nat.lt_succ_of_lt (ih h)

/-- Inserts the characters that the numbers name: `n` is the least number that can come next and
`i` the position at which it would go. -/
def insertAll (label : List Char) (n i bias : Nat) (s : List Char) : Option (List Char) :=
  if s = [] then some label
  else
    match h : readNumber bias 36 1 i s with
    | none => none
    | some (j, r) =>
      have : r.length < s.length := readNumber_shorter h
      let count := label.length + 1
      let n := n + j / count
      let place := j % count
      if n.isValidChar then
        insertAll (label.insertIdx place (Char.ofNat n)) n (place + 1)
          (adapt (j - i) count (i = 0)) r
      else none
termination_by s.length

/-- The label that letters, digits and hyphens stand for. -/
def decode (s : List Char) : Option (List Char) :=
  match s.reverse.dropWhile (· ≠ '-') with
  | [] => insertAll [] 0x80 0 72 s
  | _ :: front =>
    if front.all (·.toNat < 0x80) then
      insertAll front.reverse 0x80 0 72 (s.drop (front.length + 1))
    else none

end ProcTrace.Idna.Punycode
