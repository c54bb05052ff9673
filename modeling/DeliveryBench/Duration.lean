import DeliveryBench.Word

/-!
Spans of time: a word of whole seconds, and nanoseconds below one second. The bounds are part of the
type, so a duration has exactly one value (`Duration.ext_parts`).
-/

namespace DeliveryBench

/-- A span of time, exact to the nanosecond. -/
structure Duration where
  secs : Nat
  nanos : Nat
  secs_lt : secs < Word.limit
  nanos_lt : nanos < 1000000000
deriving DecidableEq

namespace Duration

theorem ext_parts {a b : Duration} (secs : a.secs = b.secs) (nanos : a.nanos = b.nanos) :
    a = b := by
  cases a
  cases b
  subst secs
  subst nanos
  rfl

/-- No time at all. -/
def zero : Duration := ⟨0, 0, by decide, by decide⟩

/-- The longest span. -/
def max : Duration := ⟨Word.limit - 1, 999999999, by decide, by decide⟩

instance : Inhabited Duration := ⟨zero⟩

def isZero (d : Duration) : Bool :=
  d.secs == 0 && d.nanos == 0

/-- The span in nanoseconds. -/
def toNanos (d : Duration) : Nat :=
  d.secs * 1000000000 + d.nanos

/-- The span of so many nanoseconds; beyond the longest span it is the longest span. -/
def ofNanos (n : Nat) : Duration :=
  if h : n / 1000000000 < Word.limit then
    ⟨n / 1000000000, n % 1000000000, h, Nat.mod_lt n (by decide)⟩
  else max

/-- The span of so many whole seconds and further nanoseconds, if the parts are in range. -/
def ofParts? (secs nanos : Nat) : Option Duration :=
  if h : secs < Word.limit ∧ nanos < 1000000000 then some ⟨secs, nanos, h.1, h.2⟩ else none

def ofMillis (ms : Nat) : Duration :=
  ofNanos (ms * 1000000)

def ofSecs (secs : Nat) : Duration :=
  ofNanos (secs * 1000000000)

/-- The longest pause that one can make: thirty years of 365 days. -/
def longestPause : Duration :=
  ofSecs (30 * 365 * 86400)

theorem toNanos_ofNanos {n : Nat} (h : n / 1000000000 < Word.limit) : (ofNanos n).toNanos = n := by
  unfold ofNanos
  rw [dif_pos h]
  simp only [toNanos]
  omega

theorem isZero_iff {d : Duration} : d.isZero = true ↔ d = zero := by
  unfold isZero
  rw [Bool.and_eq_true, beq_iff_eq, beq_iff_eq]
  exact ⟨fun none => ext_parts none.1 none.2, fun none => none ▸ ⟨rfl, rfl⟩⟩

theorem toNanos_eq_zero_iff {d : Duration} : d.toNanos = 0 ↔ d = zero := by
  constructor
  · intro h
    unfold toNanos at h
    exact ext_parts (by simp [zero]; omega) (by simp [zero]; omega)
  · rintro rfl
    rfl

end Duration

end DeliveryBench
