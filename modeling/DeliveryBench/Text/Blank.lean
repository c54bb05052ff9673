/-!
White space as the Unicode property `White_Space` defines it, and trimming by it.

`isBlank_of_isWhitespace` says that the ASCII blanks of the core library are among them.
-/

namespace DeliveryBench.Text

/-- The code points of the property `White_Space`, as closed ranges. -/
def blankRanges : List (Nat × Nat) :=
  [(0x9, 0xD), (0x20, 0x20), (0x85, 0x85), (0xA0, 0xA0), (0x1680, 0x1680), (0x2000, 0x200A),
    (0x2028, 0x2029), (0x202F, 0x202F), (0x205F, 0x205F), (0x3000, 0x3000)]

/-- Whether a character lies in one of some ranges of code points, which ascend. -/
def inRanges : List (Nat × Nat) → Char → Bool
  | [], _ => false
  | (low, high) :: rest, c => if c.toNat ≤ high then low ≤ c.toNat else inRanges rest c

/-- Whether a character has the property `White_Space`. -/
def isBlank (c : Char) : Bool :=
  inRanges blankRanges c

/-- The text without the blanks at its two ends. -/
def trim (cs : List Char) : List Char :=
  ((cs.dropWhile isBlank).reverse.dropWhile isBlank).reverse

theorem isBlank_of_isWhitespace {c : Char} (h : c.isWhitespace = true) : isBlank c = true := by
  simp only [Char.isWhitespace, Bool.or_eq_true, decide_eq_true_eq] at h
  rcases h with ((h | h) | h) | h <;> subst h <;> decide

end DeliveryBench.Text
