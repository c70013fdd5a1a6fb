import ProcTrace.Unicode.CombiningClass
import ProcTrace.Unicode.Composition

/-!
# The composed normal form

A text is in composed normal form when its characters have been taken apart, the marks after each of
them have been put in the order of their classes, and everything that has a character of its own has
been put together again. The syllables of Hangul are composed by arithmetic on their numbers.
-/

namespace ProcTrace.Unicode

namespace Hangul

def leadBase : Nat := 0x1100
def vowelBase : Nat := 0x1161
def trailBase : Nat := 0x11A7
def syllableBase : Nat := 0xAC00
def leadCount : Nat := 19
def vowelCount : Nat := 21
def trailCount : Nat := 28

/-- The letters of a syllable. -/
def split (n : Nat) : Option (List Nat) :=
  let s := n - syllableBase
  if syllableBase ≤ n ∧ s < leadCount * vowelCount * trailCount then
    let trail := s % trailCount
    some ([leadBase + s / (vowelCount * trailCount),
      vowelBase + s % (vowelCount * trailCount) / trailCount] ++
        if trail = 0 then [] else [trailBase + trail])
  else none

/-- The syllable of a letter, or a syllable without a last letter, and the letter after it. -/
def join (a b : Nat) : Option Nat :=
  if leadBase ≤ a ∧ a < leadBase + leadCount ∧ vowelBase ≤ b ∧ b < vowelBase + vowelCount then
    some (syllableBase + ((a - leadBase) * vowelCount + (b - vowelBase)) * trailCount)
  else if syllableBase ≤ a ∧ a < syllableBase + leadCount * vowelCount * trailCount ∧
      (a - syllableBase) % trailCount = 0 ∧ trailBase < b ∧ b < trailBase + trailCount then
    some (a + (b - trailBase))
  else none

end Hangul

/-- The parts of a character, taken apart at most the given number of times. -/
def parts : Nat → Nat → List Nat
  | 0, n => [n]
  | depth + 1, n =>
    match Hangul.split n with
    | some ns => ns
    | none => match compositions.find? (·.2.2 == n) with
      | some (a, b, _) => parts depth a ++ [b]
      | none => [n]

/-- The greatest number of marks that a character of the table stands for. -/
def partsMax : Nat := 4

/-- Puts a character with its class after marks that have a greater one. -/
def insertMark (m : Nat × Nat) : List (Nat × Nat) → List (Nat × Nat)
  | [] => [m]
  | x :: xs => if x.2 ≠ 0 ∧ m.2 ≠ 0 ∧ m.2 < x.2 then x :: insertMark m xs else m :: x :: xs

/-- The characters, each with its class, in the order in which marks belong. -/
def ordered (ns : List Nat) : List (Nat × Nat) :=
  let marked := ns.map fun n => (n, combiningClass (Char.ofNat n))
  (marked.foldl (fun acc m => insertMark m acc) []).reverse

/-- The character that two characters are composed to. -/
def compose? (a b : Nat) : Option Nat :=
  match Hangul.join a b with
  | some c => some c
  | none => (compositions.find? fun r => r.1 == a && r.2.1 == b).map (·.2.2)

/-- Composes a text, given the last character that marks can join, the marks after it that did
not join it, and the class of the last of those. -/
def composeAfter : Option Nat → List Nat → Nat → List (Nat × Nat) → List Nat
  | starter, marks, _, [] => starter.toList ++ marks.reverse
  | none, marks, last, (n, cls) :: rest =>
    if cls = 0 then marks.reverse ++ composeAfter (some n) [] 0 rest
    else composeAfter none (n :: marks) last rest
  | some s, marks, last, (n, cls) :: rest =>
    match if marks = [] ∨ last < cls then compose? s n else none with
    | some c => composeAfter (some c) marks last rest
    | none =>
      if cls = 0 then s :: marks.reverse ++ composeAfter (some n) [] 0 rest
      else composeAfter (some s) (n :: marks) cls rest

/-- The composed normal form of a text. -/
def composed (cs : List Char) : List Char :=
  let apart := cs.flatMap fun c => parts partsMax c.toNat
  (composeAfter none [] 0 (ordered apart)).map Char.ofNat

end ProcTrace.Unicode
