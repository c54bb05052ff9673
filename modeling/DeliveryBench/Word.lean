/-!
Unsigned words of 64 bits, kept as natural numbers below `Word.limit`.

Counters that run over start again at zero (`Word.wrap`). Quantities that must not run over are
added and multiplied with a check: `Word.add?` and `Word.mul?` have a value exactly when the true
sum or product is still a word.
-/

namespace DeliveryBench

namespace Word

/-- The first number that is no longer a word, two to the power of 64. -/
def limit : Nat := 18446744073709551616

/-- The word that a counter shows after it has counted to `n`. -/
def wrap (n : Nat) : Nat := n % limit

/-- The sum of some numbers, which need not be a word. -/
def total (ns : List Nat) : Nat :=
  ns.foldr (· + ·) 0

/-- The sum, if it is a word. -/
def add? (a b : Nat) : Option Nat :=
  if a + b < limit then some (a + b) else none

/-- The product, if it is a word. -/
def mul? (a b : Nat) : Option Nat :=
  if a * b < limit then some (a * b) else none

theorem wrap_lt (n : Nat) : wrap n < limit :=
  Nat.mod_lt n (by decide)

theorem wrap_of_lt {n : Nat} (h : n < limit) : wrap n = n :=
  Nat.mod_eq_of_lt h

/-- A counter that goes on from the word that it shows. -/
theorem wrap_wrap_succ (n : Nat) : wrap (wrap n + 1) = wrap (n + 1) :=
  Nat.mod_add_mod n limit 1

theorem add?_eq_some_iff {a b c : Nat} : add? a b = some c ↔ a + b = c ∧ c < limit := by
  unfold add?
  split
  · simp only [Option.some.injEq]
    exact ⟨fun h => ⟨h, h ▸ ‹_›⟩, fun h => h.1⟩
  · simp only [reduceCtorEq, false_iff]
    exact fun h => ‹¬ _› (h.1 ▸ h.2)

theorem mul?_eq_some_iff {a b c : Nat} : mul? a b = some c ↔ a * b = c ∧ c < limit := by
  unfold mul?
  split
  · simp only [Option.some.injEq]
    exact ⟨fun h => ⟨h, h ▸ ‹_›⟩, fun h => h.1⟩
  · simp only [reduceCtorEq, false_iff]
    exact fun h => ‹¬ _› (h.1 ▸ h.2)

end Word

end DeliveryBench
