/-!
# Blank characters

The characters that carry no ink, in the sense of the Unicode property `White_Space`, and the
removal of them from the two ends of a text. Every place of this library that skips "whitespace"
without further notice means this set; JSON and TOML have smaller sets of their own.
-/

namespace ProcTrace.Text

/-- A character is **blank** when it has the Unicode property `White_Space`. -/
def isBlank (c : Char) : Bool :=
  let n := c.toNat
  (0x09 ≤ n && n ≤ 0x0D) || n == 0x20 || n == 0x85 || n == 0xA0 || n == 0x1680 ||
    (0x2000 ≤ n && n ≤ 0x200A) || n == 0x2028 || n == 0x2029 || n == 0x202F || n == 0x205F ||
    n == 0x3000

/-- The text without the blanks at its front. -/
def trimFront (cs : List Char) : List Char :=
  cs.dropWhile isBlank

/-- The text without the blanks at its back. -/
def trimBack (cs : List Char) : List Char :=
  (cs.reverse.dropWhile isBlank).reverse

/-- The text without the blanks at its two ends; blanks between other characters stay. -/
def trim (cs : List Char) : List Char :=
  trimBack (trimFront cs)

/-- What is dropped at the front is blank, and what is left does not start with a blank. -/
private theorem dropWhile_isBlank (cs : List Char) :
    (∃ blanks, (∀ c ∈ blanks, isBlank c = true) ∧ cs = blanks ++ cs.dropWhile isBlank) ∧
      ∀ c ∈ (cs.dropWhile isBlank).head?, isBlank c = false := by
  constructor
  · refine ⟨cs.takeWhile isBlank, fun c hc => ?_, List.takeWhile_append_dropWhile.symm⟩
    exact List.all_eq_true.mp List.all_takeWhile c hc
  · intro c hc
    have hhead := List.head?_dropWhile_not isBlank cs
    rwa [Option.mem_def.mp hc] at hhead

/-- **Trimming removes the blanks at the two ends** and nothing else: what it leaves neither starts
nor ends with a blank. -/
theorem trim_spec (cs : List Char) :
    (∃ front back, (∀ c ∈ front, isBlank c = true) ∧ (∀ c ∈ back, isBlank c = true) ∧
        cs = front ++ trim cs ++ back) ∧
      (∀ c ∈ (trim cs).head?, isBlank c = false) ∧ ∀ c ∈ (trim cs).getLast?, isBlank c = false := by
  obtain ⟨⟨front, hfront, hcs⟩, hhead⟩ := dropWhile_isBlank cs
  obtain ⟨⟨back, hback, hrest⟩, hlast⟩ := dropWhile_isBlank (trimFront cs).reverse
  have htrim : cs.dropWhile isBlank = trim cs ++ back.reverse := by
    simpa [trim, trimBack, trimFront] using congrArg List.reverse hrest
  refine ⟨⟨front, back.reverse, hfront, fun c hc => hback c (List.mem_reverse.mp hc), ?_⟩,
    fun c hc => hhead c ?_, fun c hc => hlast c ?_⟩
  · rw [List.append_assoc, ← htrim]
    exact hcs
  · rw [htrim, List.head?_append, Option.mem_def.mp hc]
    rfl
  · rwa [trim, trimBack, List.getLast?_reverse] at hc

end ProcTrace.Text
