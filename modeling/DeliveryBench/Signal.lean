/-!
A countdown that completes once the expected number of deliveries has been seen. It never goes
below zero, once complete it stays complete (`isComplete_countDown`), and whoever counts is told
what is left (`fst_countDown`).
-/

namespace DeliveryBench

/-- A completion signal. -/
structure Signal where
  expected : Nat
  /-- Deliveries still missing. -/
  count : Nat
deriving DecidableEq, Repr

namespace Signal

/-- A signal on which nothing has been counted yet. -/
def fresh (expected : Nat) : Signal := ⟨expected, expected⟩

def isComplete (s : Signal) : Bool :=
  s.count == 0

/-- Counts one delivery; the result is what is left. -/
def countDown (s : Signal) : Nat × Signal :=
  let left := s.count - 1
  (left, { s with count := left })

theorem expected_countDown (s : Signal) : s.countDown.2.expected = s.expected := rfl

theorem count_countDown (s : Signal) : s.countDown.2.count = s.count - 1 := rfl

theorem fst_countDown (s : Signal) : s.countDown.1 = s.countDown.2.count := rfl

theorem isComplete_countDown {s : Signal} (h : s.isComplete = true) :
    s.countDown.2.isComplete = true := by
  simp_all [isComplete, countDown]

end Signal

end DeliveryBench
