import DeliveryBench.Duration.HumanReader

/-!
Where the carry of a full second runs over.

There is one such place only: the sum of the spans so far is in its last second, and what comes next
fills this second up to the nanosecond (`FillsUp`). With one nanosecond less, the sum is a duration;
with one more, the check finds that the seconds are no word.
-/

namespace DeliveryBench.Duration

/-- So many nanoseconds are just what is missing to the end of the last second. -/
def FillsUp (sum : Duration) (nanos : Nat) : Prop :=
  sum.secs + 1 = Word.limit ∧ sum.nanos + nanos = 1000000000

/-- Whether fractions of a unit are counted in nanoseconds. -/
def TimeUnit.partsCountNanos : TimeUnit → Bool
  | .microsecond | .millisecond | .second | .minute => true
  | _ => false

/-- One of the two parts of a span fills up the last second. -/
inductive SpanFillsUp (sum : Duration) (number : Nat) (unit : TimeUnit) : Option Fraction → Prop
  | whole {fraction : Option Fraction} : TimeUnit.countsNanos unit = true →
    FillsUp sum (number * unit.nanos) → SpanFillsUp sum number unit fraction
  | fraction {sum' : Duration} {f : Fraction} {nanos : Nat} :
    sum.plusWhole number unit = .ok sum' → TimeUnit.partsCountNanos unit = true →
    Word.mul? f.numerator unit.nanos = some nanos → nanos % f.denominator = 0 →
    FillsUp sum' (nanos / f.denominator) → SpanFillsUp sum number unit (some f)

/-- A span ends before this rest of a text: nothing is left, or a blank or a digit is next. -/
def EndsSpan : List Char → Prop
  | [] => True
  | c :: _ => c.isDigit = true ∨ Text.isBlank c = true

/-- Somewhere in a text ends a span that fills up the last second. -/
inductive RunsFull (text : List Char) : Prop
  | intro {front back : List Char} {scan : Scan} {number : Nat} {fraction : Option Fraction}
    {letters : List Char} {unit : TimeUnit} : text = front ++ back →
    front.foldlM Scan.step {} = .ok scan → scan.part = .unit number fraction letters →
    EndsSpan back → TimeUnit.ofName? (String.ofList letters) = some unit →
    SpanFillsUp scan.sum number unit fraction → RunsFull text

end DeliveryBench.Duration
