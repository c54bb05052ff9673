import DeliveryBench.Duration.Human
import DeliveryBench.Text.Blank

/-!
Reading durations written for people.

The text is a sequence of spans, each a number, an optional fraction and a unit. The reader takes
one character at a time (`Scan.step`) and keeps what it has read of the current span together with
the sum of the spans before it; `Scan.finish` closes the last span. Reading is therefore a fold
over the characters, and what happens on `xs ++ ys` follows from what happens on `xs`.

Every quantity is a 64-bit word and every operation on it is checked, with one exception that the
format has: when the nanoseconds of a sum come to exactly one second, the second is carried
without a check, and past the last word the whole program stops. That case is the fault
`carryOverflow`.
-/

namespace DeliveryBench.Duration

/-- Why a text is no duration. Offsets count bytes of the text. -/
inductive ReadFault where
  /-- The text holds nothing but blanks. -/
  | empty
  /-- No number stands after the gap that begins here. -/
  | numberExpected (offset : Nat)
  | invalidCharacter (offset : Nat)
  /-- A number without a unit. -/
  | unitMissing (number : Nat)
  | unitUnknown (unit : String)
  /-- A word ran over, or a fraction is no whole number of nanoseconds (from hours on, of
  seconds). -/
  | numberTooLarge
  /-- The carry of a full second ran over, which stops the program. -/
  | carryOverflow
deriving DecidableEq, Repr

/-- The text of a fault, or of the failure that stops the program. -/
def ReadFault.message : ReadFault → String
  | .empty => "value was empty"
  | .numberExpected offset => s!"expected number at {offset}"
  | .invalidCharacter offset => s!"invalid character at {offset}"
  | .unitMissing number =>
    "time unit needed, for example " ++ toString number ++ "sec or " ++ toString number ++ "ms"
  | .unitUnknown unit =>
    "unknown time unit \"" ++ unit ++ "\", supported units: ns, us/µs, ms, sec, min, hours, days, "
      ++ "weeks, months, years (and few variations)"
  | .numberTooLarge =>
    "number is too large or cannot be represented without a lack of precision "
      ++ "(values below 1ns are not supported)"
  | .carryOverflow => "overflow in Duration::new"

/-! ## Adding one span to the sum -/

/-- Adds whole seconds and nanoseconds to a sum of spans. -/
def plus (sum : Duration) (secs nanos : Nat) : Except ReadFault Duration :=
  match Word.add? sum.nanos nanos with
  | none => .error .numberTooLarge
  | some allNanos =>
    let carried := if allNanos > 1000000000 then allNanos / 1000000000 else 0
    let rest := if allNanos > 1000000000 then allNanos % 1000000000 else allNanos
    match (Word.add? secs carried).bind (Word.add? sum.secs) with
    | none => .error .numberTooLarge
    | some allSecs =>
      let full := if rest = 1000000000 then 1 else 0
      match ofParts? (allSecs + full) (if rest = 1000000000 then 0 else rest) with
      | none => .error .carryOverflow
      | some d => .ok d

/-- The digits after a decimal point: their value and the power of ten that they are parts of. -/
structure Fraction where
  numerator : Nat
  denominator : Nat
deriving DecidableEq, Repr

/-- Whether a unit is so short that its amounts are counted in nanoseconds. -/
def TimeUnit.countsNanos : TimeUnit → Bool
  | .nanosecond | .microsecond | .millisecond => true
  | _ => false

/-- Adds `number` units to a sum. -/
def plusWhole (sum : Duration) (number : Nat) (unit : TimeUnit) : Except ReadFault Duration :=
  if TimeUnit.countsNanos unit then
    match Word.mul? number unit.nanos with
    | none => .error .numberTooLarge
    | some nanos => sum.plus 0 nanos
  else
    match Word.mul? number (unit.nanos / 1000000000) with
    | none => .error .numberTooLarge
    | some secs => sum.plus secs 0

/-- The quotient, if the division leaves nothing. -/
def exactQuotient? (a b : Nat) : Option Nat :=
  if a % b = 0 then some (a / b) else none

/-- Adds a fraction of a unit to a sum: of a unit below an hour in whole nanoseconds, of a longer
one in whole seconds, and of a nanosecond never. -/
def plusFraction (sum : Duration) (fraction : Fraction) (unit : TimeUnit) :
    Except ReadFault Duration :=
  match unit with
  | .nanosecond => .error .numberTooLarge
  | .microsecond | .millisecond | .second | .minute =>
    match (Word.mul? fraction.numerator unit.nanos).bind
        (exactQuotient? · fraction.denominator) with
    | none => .error .numberTooLarge
    | some nanos => sum.plus 0 nanos
  | .hour | .day | .week | .month | .year =>
    match (Word.mul? fraction.numerator (unit.nanos / 1000000000)).bind
        (exactQuotient? · fraction.denominator) with
    | none => .error .numberTooLarge
    | some secs => sum.plus secs 0

/-- Adds a span to the sum of those before it, once its unit has been read. -/
def plusSpan (sum : Duration) (number : Nat) (fraction : Option Fraction) (unit : List Char) :
    Except ReadFault Duration :=
  if unit.isEmpty then .error (.unitMissing number)
  else
    match TimeUnit.ofName? (String.ofList unit) with
    | none => .error (.unitUnknown (String.ofList unit))
    | some u =>
      match sum.plusWhole number u with
      | .error fault => .error fault
      | .ok sum =>
        match fraction with
        | none => .ok sum
        | some f => sum.plusFraction f u

/-! ## The characters -/

/-- The value of a decimal digit. -/
def digit? (c : Char) : Option Nat :=
  if c.isDigit then some (c.toNat - '0'.toNat) else none

/-- The characters of which unit names are made. -/
def isUnitLetter (c : Char) : Bool :=
  c.isAlpha || c == 'µ'

/-- Appends a decimal digit to a number. -/
def appendDigit? (n digit : Nat) : Option Nat :=
  (Word.mul? n 10).bind (Word.add? · digit)

/-- What is being read. -/
inductive Part where
  /-- A number must begin here, after any number of blanks, unless the text ends after a span;
  `mark` is the offset at which the gap begins, after the blank that has ended the span before. -/
  | gap (mark : Nat)
  | number (n : Nat)
  /-- After the decimal point; `mark` is the offset that a fault here names. -/
  | fraction (n : Nat) (digits : Fraction) (mark : Nat)
  | unit (n : Nat) (digits : Option Fraction) (letters : List Char)
deriving DecidableEq, Repr

/-- A reading in progress. -/
structure Scan where
  part : Part := .gap 0
  /-- The offset of the next character. -/
  offset : Nat := 0
  /-- Whether a span has begun. -/
  begun : Bool := false
  /-- The spans that are complete. -/
  sum : Duration := zero

namespace Scan

/-- A character in the gap before a number. -/
def stepGap (mark : Nat) (c : Char) : Except ReadFault Part :=
  match digit? c with
  | some d => .ok (.number d)
  | none => if Text.isBlank c then .ok (.gap mark) else .error (.numberExpected mark)

/-- A character in the whole part of a number. -/
def stepNumber (offset n : Nat) (c : Char) : Except ReadFault Part :=
  match digit? c with
  | some d =>
    match appendDigit? n d with
    | some n => .ok (.number n)
    | none => .error .numberTooLarge
  | none =>
    if Text.isBlank c then .ok (.number n)
    else if isUnitLetter c then .ok (.unit n none [c])
    else if c == '.' then .ok (.fraction n ⟨0, 1⟩ offset)
    else .error (.invalidCharacter offset)

/-- A character in a fraction. -/
def stepFraction (offset n : Nat) (digits : Fraction) (mark : Nat) (c : Char) :
    Except ReadFault Part :=
  match digit? c with
  | some d =>
    match appendDigit? digits.numerator d, Word.mul? digits.denominator 10 with
    | some numerator, some denominator =>
      .ok (.fraction n ⟨numerator, denominator⟩ (offset + 1))
    | _, _ => .error .numberTooLarge
  | none =>
    if Text.isBlank c then .ok (.fraction n digits (offset + c.utf8Size))
    else if isUnitLetter c then
      if digits.denominator = 1 then .error (.invalidCharacter mark)
      else .ok (.unit n (some digits) [c])
    else .error (.invalidCharacter mark)

/-- Takes one character. -/
def step (s : Scan) (c : Char) : Except ReadFault Scan :=
  let next := s.offset + c.utf8Size
  match s.part with
  | .gap mark => do
    let part ← stepGap mark c
    pure { s with part, offset := next, begun := s.begun || c.isDigit }
  | .number n => do
    let part ← stepNumber s.offset n c
    pure { s with part, offset := next }
  | .fraction n digits mark => do
    let part ← stepFraction s.offset n digits mark c
    pure { s with part, offset := next }
  | .unit n digits letters =>
    match digit? c with
    | some d => do
      let sum ← s.sum.plusSpan n digits letters
      pure { s with part := .number d, offset := next, sum }
    | none =>
      if Text.isBlank c then do
        let sum ← s.sum.plusSpan n digits letters
        pure { s with part := .gap next, offset := next, sum }
      else if isUnitLetter c then
        .ok { s with part := .unit n digits (letters ++ [c]), offset := next }
      else .error (.invalidCharacter s.offset)

/-- Closes the text. -/
def finish (s : Scan) : Except ReadFault Duration :=
  match s.part with
  | .gap _ => if s.begun then .ok s.sum else .error .empty
  | .number n => s.sum.plusSpan n none []
  | .fraction n digits mark =>
    if digits.denominator = 1 then .error (.invalidCharacter mark)
    else s.sum.plusSpan n (some digits) []
  | .unit n digits letters => s.sum.plusSpan n digits letters

end Scan

/-- Reads a duration; the text `0` alone needs no unit. -/
def readHuman (text : List Char) : Except ReadFault Duration :=
  if text = ['0'] then .ok zero
  else do
    let scan ← text.foldlM Scan.step {}
    scan.finish

end DeliveryBench.Duration
