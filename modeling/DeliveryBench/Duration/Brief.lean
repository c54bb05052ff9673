import DeliveryBench.Duration

/-!
The brief text of a duration: one decimal number in the largest unit whose whole part is not zero,
without trailing zeros, as in `1.0005s`, `250ms`, `999ns`.
-/

namespace DeliveryBench.Duration

/-- The decimal digits of `n`, filled with zeros in front up to `width`. -/
def paddedDigits (width n : Nat) : List Char :=
  let digits := Nat.toDigits 10 n
  List.replicate (width - digits.length) '0' ++ digits

/-- A fraction of `width` digits with its point, without trailing zeros; nothing if it is zero. -/
def fractionDigits (width n : Nat) : List Char :=
  match ((paddedDigits width n).reverse.dropWhile (· == '0')).reverse with
  | [] => []
  | digits => '.' :: digits

/-- A whole part, a fraction of `width` digits and a unit. -/
def decimalText (whole width fraction : Nat) (unit : String) : String :=
  toString whole ++ String.ofList (fractionDigits width fraction) ++ unit

/-- The duration as one number with a unit. -/
def brief (d : Duration) : String :=
  if d.secs ≠ 0 then decimalText d.secs 9 d.nanos "s"
  else if 1000000 ≤ d.nanos then decimalText (d.nanos / 1000000) 6 (d.nanos % 1000000) "ms"
  else if 1000 ≤ d.nanos then decimalText (d.nanos / 1000) 3 (d.nanos % 1000) "µs"
  else decimalText d.nanos 0 0 "ns"

end DeliveryBench.Duration
