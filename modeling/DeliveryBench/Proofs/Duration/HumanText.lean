import DeliveryBench.Duration.HumanReader
import Mathlib.Algebra.GroupWithZero.Nat

/-!
# Durations written for people are read back

The reader takes one character at a time, so what it makes of a text is put together from what it
makes of the pieces: digits make a number (`Scan.reads_digits`), letters after it make its unit
(`Scan.reads_more_letters`), and the blank that follows adds the span to the sum. A text of spans
therefore comes to what adding up the spans comes to (`finish_spans`), and the spans of a duration
add up to it: no partial sum is more than the whole, so nothing runs over (`foldlM_plusWhole`).
-/

namespace DeliveryBench.Duration

/-! ## Digits -/

theorem digit?_digitChar {n : Nat} (small : n < 10) : digit? n.digitChar = some n := by
  unfold digit?
  rw [Nat.isDigit_digitChar, if_pos (decide_eq_true small), Nat.toNat_digitChar_of_lt_ten small]
  exact congrArg some (Nat.add_sub_cancel_left 48 n)

theorem appendDigit?_eq {n digit : Nat} (word : n * 10 + digit < Word.limit) :
    appendDigit? n digit = some (n * 10 + digit) := by
  have front : Word.mul? n 10 = some (n * 10) :=
    Word.mul?_eq_some_iff.2 ⟨rfl, Nat.lt_of_le_of_lt (Nat.le_add_right _ _) word⟩
  unfold appendDigit?
  rw [front, Option.bind_some]
  exact Word.add?_eq_some_iff.2 ⟨rfl, word⟩

/-! ## The pieces of a text -/

/-- A character that can only be part of the name of a unit. -/
structure IsLetter (c : Char) : Prop where
  digit : digit? c = none
  blank : Text.isBlank c = false
  letter : isUnitLetter c = true

theorem isLetter_of_mem_name {name : String} {unit : TimeUnit}
    (named : TimeUnit.ofName? name = some unit) {c : Char} (member : c ∈ name.toList) :
    IsLetter c := by
  have letters : ∀ unit ∈ TimeUnit.all, ∀ name ∈ unit.names,
      (name.toList.all fun c => digit? c == none && !Text.isBlank c && isUnitLetter c) = true := by
    decide
  have bears := List.find?_some named
  have all := letters unit (List.mem_of_find?_eq_some named) name (List.contains_iff_mem.1 bears)
  have each := List.all_eq_true.1 all c member
  simp only [Bool.and_eq_true, beq_iff_eq, Bool.not_eq_true'] at each
  exact ⟨each.1.1, each.1.2, each.2⟩

namespace Scan

/-- With these characters the reader comes to read this part, and nothing is added to the sum. -/
def Reads (s : Scan) (chars : List Char) (part : Part) : Prop :=
  ∃ s', chars.foldlM step s = .ok s' ∧ s'.part = part ∧ s'.sum = s.sum

variable {s : Scan}

theorem Reads.append {front back : List Char} {middle part : Part} (reads : s.Reads front middle)
    (goesOn : ∀ s' : Scan, s'.part = middle → s'.Reads back part) :
    s.Reads (front ++ back) part := by
  obtain ⟨s', first, here, same⟩ := reads
  obtain ⟨s'', second, there, same'⟩ := goesOn s' here
  refine ⟨s'', ?_, there, same'.trans same⟩
  rw [List.foldlM_append, first]
  exact second

theorem reads_char {c : Char} {s' : Scan} (taken : s.step c = .ok s') (same : s'.sum = s.sum) :
    s.Reads [c] s'.part := by
  refine ⟨s', ?_, rfl, same⟩
  rw [List.foldlM_cons, taken]
  rfl

theorem reads_of_gap {mark : Nat} {c : Char} {part : Part} (gap : s.part = .gap mark)
    (read : stepGap mark c = .ok part) : s.Reads [c] part := by
  have taken : s.step c = .ok { s with
      part, offset := s.offset + c.utf8Size, begun := s.begun || c.isDigit } := by
    unfold step
    rw [gap]
    dsimp only
    rw [read]
    rfl
  exact reads_char taken rfl

theorem reads_of_number {n : Nat} {c : Char} {part : Part} (number : s.part = .number n)
    (read : stepNumber s.offset n c = .ok part) : s.Reads [c] part := by
  have taken : s.step c = .ok { s with part, offset := s.offset + c.utf8Size } := by
    unfold step
    rw [number]
    dsimp only
    rw [read]
    rfl
  exact reads_char taken rfl

/-- Where a number is looked for, its digits are read as the number. -/
theorem reads_digits {mark n : Nat} (gap : s.part = .gap mark) (word : n < Word.limit) :
    s.Reads (Nat.toDigits 10 n) (.number n) := by
  induction n using Nat.strongRecOn with
  | ind n ih =>
      rw [Nat.toDigits_eq_if (by decide)]
      split
      · rename_i small
        apply reads_of_gap gap
        unfold stepGap
        rw [digit?_digitChar small]
      · rename_i large
        have front := ih (n / 10) (by omega) (by omega)
        refine front.append fun s' number => reads_of_number number ?_
        have whole : n / 10 * 10 + n % 10 = n := Nat.div_add_mod' n 10
        unfold stepNumber
        rw [digit?_digitChar (Nat.mod_lt n (by decide))]
        dsimp only
        rw [appendDigit?_eq (whole.symm ▸ word), whole]

theorem reads_first_letter {n : Nat} {c : Char} (number : s.part = .number n) (letter : IsLetter c) :
    s.Reads [c] (.unit n none [c]) := by
  apply reads_of_number number
  unfold stepNumber
  rw [letter.digit, letter.blank, letter.letter]
  rfl

theorem reads_more_letters {n : Nat} {digits : Option Fraction} {front back : List Char}
    (unit : s.part = .unit n digits front) (letters : ∀ c ∈ back, IsLetter c) :
    s.Reads back (.unit n digits (front ++ back)) := by
  induction back generalizing s front with
  | nil => exact ⟨s, rfl, by rw [unit, List.append_nil], rfl⟩
  | cons c rest ih =>
      obtain ⟨letter, others⟩ := List.forall_mem_cons.1 letters
      have taken : s.step c = .ok { s with
          part := .unit n digits (front ++ [c]), offset := s.offset + c.utf8Size } := by
        unfold step
        rw [unit]
        dsimp only
        rw [letter.digit, letter.blank, letter.letter]
        rfl
      rw [← List.singleton_append, ← List.append_assoc]
      exact (reads_char taken rfl).append fun s' unit' => ih unit' others

end Scan

/-! ## Spans -/

/-- A number with a unit, under one of its names. -/
structure Span where
  number : Nat
  unit : TimeUnit
  name : String

namespace Span

def text (x : Span) : String :=
  toString x.number ++ x.name

structure Legible (x : Span) : Prop where
  word : x.number < Word.limit
  named : TimeUnit.ofName? x.name = some x.unit

variable {x : Span} {s : Scan}

theorem text_toList : x.text.toList = Nat.toDigits 10 x.number ++ x.name.toList := by
  unfold text
  rw [String.toList_append, Nat.toString_eq_repr, Nat.toList_repr]

theorem Legible.name_ne_nil (legible : x.Legible) : x.name.toList ≠ [] := by
  intro empty
  have named := legible.named
  rw [String.toList_eq_nil_iff.1 empty] at named
  cases named

theorem Legible.reads (legible : x.Legible) {mark : Nat} (gap : s.part = .gap mark) :
    s.Reads x.text.toList (.unit x.number none x.name.toList) := by
  rw [text_toList]
  refine (Scan.reads_digits gap legible.word).append fun s' number => ?_
  cases letters : x.name.toList with
  | nil => exact absurd letters legible.name_ne_nil
  | cons c rest =>
      have each : ∀ c' ∈ c :: rest, IsLetter c' := fun c' member =>
        isLetter_of_mem_name legible.named (letters ▸ member)
      obtain ⟨first, others⟩ := List.forall_mem_cons.1 each
      exact (Scan.reads_first_letter number first).append fun s'' unit =>
        Scan.reads_more_letters unit others

/-- Once a span has been read, it is added to the sum. -/
theorem Legible.plusSpan_eq (legible : x.Legible) (sum : Duration) :
    sum.plusSpan x.number none x.name.toList = sum.plusWhole x.number x.unit := by
  unfold plusSpan
  rw [List.isEmpty_eq_false_iff.2 legible.name_ne_nil, String.ofList_toList, legible.named]
  dsimp only
  cases sum.plusWhole x.number x.unit <;> rfl

end Span

/-- The blank after a span adds it to the sum. -/
theorem Scan.step_blank {s : Scan} {n : Nat} {digits : Option Fraction} {letters : List Char}
    (unit : s.part = .unit n digits letters) :
    s.step ' ' = (s.sum.plusSpan n digits letters).map fun sum =>
      { s with part := .gap (s.offset + 1), offset := s.offset + 1, sum } := by
  unfold step
  rw [unit]
  dsimp only
  cases s.sum.plusSpan n digits letters <;> rfl

/-- A text of spans comes to what adding them up comes to. -/
theorem finish_spans {spans : List Span} (some : spans ≠ []) (legible : ∀ x ∈ spans, x.Legible)
    {s : Scan} {mark : Nat} (gap : s.part = .gap mark) :
    ([' '].intercalate (spans.map fun x => x.text.toList)).foldlM Scan.step s >>= Scan.finish =
      spans.foldlM (fun sum x => sum.plusWhole x.number x.unit) s.sum := by
  induction spans generalizing s mark with
  | nil => exact absurd rfl some
  | cons x rest ih =>
      obtain ⟨first, others⟩ := List.forall_mem_cons.1 legible
      obtain ⟨s', read, unit, sum⟩ := first.reads gap
      cases rest with
      | nil =>
          rw [List.map_singleton, List.intercalate_singleton, read]
          show s'.finish = _
          unfold Scan.finish
          rw [unit]
          dsimp only
          rw [first.plusSpan_eq, sum, List.foldlM_cons]
          exact (bind_pure _).symm
      | cons y rest =>
          rw [List.map_cons, List.map_cons, List.intercalate_cons_cons, List.append_assoc,
            List.foldlM_append, read]
          show ((s'.step ' ').bind _).bind _ = _
          rw [Scan.step_blank unit, first.plusSpan_eq, sum, List.foldlM_cons]
          cases added : s.sum.plusWhole x.number x.unit with
          | error fault => rfl
          | ok sum' => exact ih (List.cons_ne_nil _ _) others rfl

/-! ## Adding up -/

/-- The seconds in so many units, if they are counted in seconds. -/
def secsIn (number : Nat) (unit : TimeUnit) : Nat :=
  if TimeUnit.countsNanos unit then 0 else number * (unit.nanos / 1000000000)

/-- The nanoseconds in so many units, if they are counted in nanoseconds. -/
def nanosIn (number : Nat) (unit : TimeUnit) : Nat :=
  if TimeUnit.countsNanos unit then number * unit.nanos else 0

/-- As long as the nanoseconds stay below a second, nothing is carried. -/
theorem plus_eq {sum d : Duration} {secs nanos : Nat} (wholes : sum.secs + secs = d.secs)
    (rests : sum.nanos + nanos = d.nanos) : sum.plus secs nanos = .ok d := by
  have small := d.nanos_lt
  have word : d.nanos < Word.limit := Nat.lt_trans small (by decide)
  have lower : secs < Word.limit := Nat.lt_of_le_of_lt (by omega) d.secs_lt
  have noCarry : ¬ d.nanos > 1000000000 := by omega
  have notFull : d.nanos ≠ 1000000000 := by omega
  unfold plus
  rw [Word.add?_eq_some_iff.2 ⟨rests, word⟩]
  dsimp only
  rw [if_neg noCarry, if_neg noCarry, Word.add?_eq_some_iff.2 ⟨Nat.add_zero secs, lower⟩,
    Option.bind_some, Word.add?_eq_some_iff.2 ⟨wholes, d.secs_lt⟩]
  dsimp only
  rw [if_neg notFull, if_neg notFull]
  unfold ofParts?
  rw [dif_pos ⟨d.secs_lt, small⟩]
  rfl

theorem plusWhole_eq {sum d : Duration} {number : Nat} {unit : TimeUnit}
    (wholes : sum.secs + secsIn number unit = d.secs)
    (rests : sum.nanos + nanosIn number unit = d.nanos) :
    sum.plusWhole number unit = .ok d := by
  have word := d.secs_lt
  have small : d.nanos < Word.limit := Nat.lt_trans d.nanos_lt (by decide)
  unfold secsIn at wholes
  unfold nanosIn at rests
  unfold plusWhole
  split at wholes
  · rename_i short
    rw [if_pos short] at rests ⊢
    rw [Word.mul?_eq_some_iff.2 ⟨rfl, by omega⟩]
    exact plus_eq wholes rests
  · rename_i long
    rw [if_neg long] at rests ⊢
    rw [Word.mul?_eq_some_iff.2 ⟨rfl, by omega⟩]
    exact plus_eq wholes rests

/-- Spans that add up to a duration come to it: what has been added before the end is no more. -/
theorem foldlM_plusWhole {spans : List Span} {sum d : Duration}
    (wholes : sum.secs + (spans.map fun x => secsIn x.number x.unit).sum = d.secs)
    (rests : sum.nanos + (spans.map fun x => nanosIn x.number x.unit).sum = d.nanos) :
    spans.foldlM (fun sum x => sum.plusWhole x.number x.unit) sum = .ok d := by
  induction spans generalizing sum with
  | nil => exact congrArg Except.ok (ext_parts wholes rests)
  | cons x rest ih =>
      rw [List.map_cons, List.sum_cons, ← Nat.add_assoc] at wholes rests
      have word := d.secs_lt
      have small := d.nanos_lt
      have added : sum.plusWhole x.number x.unit =
          .ok ⟨sum.secs + secsIn x.number x.unit, sum.nanos + nanosIn x.number x.unit,
            by omega, by omega⟩ :=
        plusWhole_eq rfl rfl
      rw [List.foldlM_cons, added]
      exact ih wholes rests

/-! ## The spans of a duration -/

/-- A number of units, which may be zero, with the names for one unit and for several. -/
structure Amount where
  number : Nat
  unit : TimeUnit
  one : String
  many : String

/-- The span that is written for an amount, if any. -/
def Amount.span? (a : Amount) : Option Span :=
  if a.number = 0 then none
  else some ⟨a.number, a.unit, if a.number = 1 then a.one else a.many⟩

/-- The numbers into which a duration is split. -/
def amounts (d : Duration) : List Amount :=
  let inYear := d.secs % 31557600
  let inMonth := inYear % 2630016
  let inDay := inMonth % 86400
  [⟨d.secs / 31557600, .year, "year", "years"⟩,
    ⟨inYear / 2630016, .month, "month", "months"⟩,
    ⟨inMonth / 86400, .day, "day", "days"⟩,
    ⟨inDay / 3600, .hour, "h", "h"⟩,
    ⟨inDay % 3600 / 60, .minute, "m", "m"⟩,
    ⟨inDay % 60, .second, "s", "s"⟩,
    ⟨d.nanos / 1000000, .millisecond, "ms", "ms"⟩,
    ⟨d.nanos / 1000 % 1000, .microsecond, "us", "us"⟩,
    ⟨d.nanos % 1000, .nanosecond, "ns", "ns"⟩]

def spans (d : Duration) : List Span :=
  d.amounts.filterMap Amount.span?

theorem humanFields_eq (d : Duration) : d.humanFields = d.spans.map Span.text := by
  have fields : d.humanFields = d.amounts.filterMap fun a => humanField a.number a.one a.many :=
    rfl
  unfold spans
  rw [fields, List.map_filterMap]
  congr 1
  funext a
  unfold humanField Amount.span?
  split <;> rfl

theorem legible_of_mem_spans {d : Duration} {x : Span} (member : x ∈ d.spans) : x.Legible := by
  have word := d.secs_lt
  have small := d.nanos_lt
  have big : 1000000000 < Word.limit := by decide
  have amounts : ∀ a ∈ d.amounts, a.number < Word.limit ∧
      TimeUnit.ofName? a.one = some a.unit ∧ TimeUnit.ofName? a.many = some a.unit := by
    simp only [amounts, List.forall_mem_cons]
    refine ⟨⟨?_, rfl, rfl⟩, ⟨?_, rfl, rfl⟩, ⟨?_, rfl, rfl⟩, ⟨?_, rfl, rfl⟩, ⟨?_, rfl, rfl⟩,
      ⟨?_, rfl, rfl⟩, ⟨?_, rfl, rfl⟩, ⟨?_, rfl, rfl⟩, ⟨?_, rfl, rfl⟩, nofun⟩ <;> omega
  obtain ⟨a, there, span⟩ := List.mem_filterMap.1 member
  obtain ⟨number, one, many⟩ := amounts a there
  unfold Amount.span? at span
  split at span
  · cases span
  · cases span
    refine ⟨number, ?_⟩
    dsimp only
    split
    · exact one
    · exact many

/-- What is not written counts for nothing. -/
theorem sum_filterMap_span? {f : Nat → TimeUnit → Nat} (zero : ∀ unit, f 0 unit = 0)
    (amounts : List Amount) :
    ((amounts.filterMap Amount.span?).map fun x => f x.number x.unit).sum =
      (amounts.map fun a => f a.number a.unit).sum := by
  induction amounts with
  | nil => rfl
  | cons a rest ih =>
      by_cases none : a.number = 0
      · have nothing : a.span? = Option.none := if_pos none
        rw [List.filterMap_cons_none nothing, ih, List.map_cons, List.sum_cons, none, zero,
          Nat.zero_add]
      · have something : a.span? = some ⟨a.number, a.unit, _⟩ := if_neg none
        rw [List.filterMap_cons_some something, List.map_cons, List.sum_cons, ih, List.map_cons,
          List.sum_cons]

theorem sum_spans {f : Nat → TimeUnit → Nat} (zero : ∀ unit, f 0 unit = 0) (d : Duration) :
    (d.spans.map fun x => f x.number x.unit).sum =
      f (d.secs / 31557600) .year + (f (d.secs % 31557600 / 2630016) .month +
        (f (d.secs % 31557600 % 2630016 / 86400) .day +
        (f (d.secs % 31557600 % 2630016 % 86400 / 3600) .hour +
        (f (d.secs % 31557600 % 2630016 % 86400 % 3600 / 60) .minute +
        (f (d.secs % 31557600 % 2630016 % 86400 % 60) .second +
        (f (d.nanos / 1000000) .millisecond + (f (d.nanos / 1000 % 1000) .microsecond +
        f (d.nanos % 1000) .nanosecond))))))) := by
  unfold spans
  rw [sum_filterMap_span? zero]
  simp only [amounts, List.map_cons, List.map_nil, List.sum_cons, List.sum_nil, Nat.add_zero]

theorem secsIn_of_short (unit : TimeUnit) (short : TimeUnit.countsNanos unit = true) (n : Nat) :
    secsIn n unit = 0 :=
  if_pos short

theorem secsIn_of_long (unit : TimeUnit) (long : TimeUnit.countsNanos unit = false) {length : Nat}
    (same : unit.nanos / 1000000000 = length) (n : Nat) : secsIn n unit = n * length := by
  unfold secsIn
  rw [long, same]
  rfl

theorem nanosIn_of_short (unit : TimeUnit) (short : TimeUnit.countsNanos unit = true)
    {length : Nat} (same : unit.nanos = length) (n : Nat) : nanosIn n unit = n * length := by
  unfold nanosIn
  rw [short, same]
  rfl

theorem nanosIn_of_long (unit : TimeUnit) (long : TimeUnit.countsNanos unit = false) (n : Nat) :
    nanosIn n unit = 0 := by
  unfold nanosIn
  rw [long]
  rfl

theorem sum_secsIn (d : Duration) : (d.spans.map fun x => secsIn x.number x.unit).sum = d.secs := by
  have zero (unit : TimeUnit) : secsIn 0 unit = 0 := by
    unfold secsIn
    rw [Nat.zero_mul, ite_self]
  rw [sum_spans zero, secsIn_of_long .year rfl (show _ = 31557600 by decide),
    secsIn_of_long .month rfl (show _ = 2630016 by decide),
    secsIn_of_long .day rfl (show _ = 86400 by decide),
    secsIn_of_long .hour rfl (show _ = 3600 by decide),
    secsIn_of_long .minute rfl (show _ = 60 by decide),
    secsIn_of_long .second rfl (show _ = 1 by decide),
    secsIn_of_short .millisecond rfl, secsIn_of_short .microsecond rfl,
    secsIn_of_short .nanosecond rfl]
  omega

theorem sum_nanosIn (d : Duration) :
    (d.spans.map fun x => nanosIn x.number x.unit).sum = d.nanos := by
  have zero (unit : TimeUnit) : nanosIn 0 unit = 0 := by
    unfold nanosIn
    rw [Nat.zero_mul, ite_self]
  rw [sum_spans zero, nanosIn_of_long .year rfl, nanosIn_of_long .month rfl,
    nanosIn_of_long .day rfl, nanosIn_of_long .hour rfl, nanosIn_of_long .minute rfl,
    nanosIn_of_long .second rfl, nanosIn_of_short .millisecond rfl (show _ = 1000000 by decide),
    nanosIn_of_short .microsecond rfl (show _ = 1000 by decide),
    nanosIn_of_short .nanosecond rfl (show _ = 1 by decide)]
  omega

theorem spans_ne_nil {d : Duration} (some : d.isZero = false) : d.spans ≠ [] := by
  intro none
  have secs := d.sum_secsIn
  have nanos := d.sum_nanosIn
  rw [none] at secs nanos
  unfold isZero at some
  rw [← show 0 = d.secs from secs, ← show 0 = d.nanos from nanos] at some
  cases some

/-- **A duration that is written is read back**, whatever it is, exactly. -/
theorem readHuman_humanText (d : Duration) : readHuman d.humanText.toList = .ok d := by
  unfold humanText
  cases none : d.isZero with
  | true =>
      rw [if_pos rfl, isZero_iff.1 none]
      rfl
  | false =>
      have read := finish_spans (spans_ne_nil none) (fun _ => legible_of_mem_spans)
        (show ({} : Scan).part = .gap 0 from rfl)
      rw [foldlM_plusWhole ((Nat.zero_add _).trans d.sum_secsIn)
        ((Nat.zero_add _).trans d.sum_nanosIn)] at read
      rw [if_neg Bool.false_ne_true, String.toList_intercalate, humanFields_eq, List.map_map]
      unfold readHuman
      split
      · rename_i alone
        -- a lone digit would be a number without a unit
        rw [show [' '].intercalate (d.spans.map fun x => x.text.toList) = ['0'] from alone] at read
        cases read
      · exact read

/-! ## The characters that are written -/

theorem mem_of_mem_intercalate {sep : List Char} {texts : List (List Char)} {c : Char}
    (member : c ∈ sep.intercalate texts) : c ∈ sep ∨ ∃ text ∈ texts, c ∈ text := by
  induction texts with
  | nil => cases member
  | cons first rest ih =>
      cases rest with
      | nil =>
          rw [List.intercalate_singleton] at member
          exact .inr ⟨first, List.mem_cons_self, member⟩
      | cons second rest =>
          rw [List.intercalate_cons_cons, List.mem_append, List.mem_append] at member
          rcases member with (here | between) | later
          · exact .inr ⟨first, List.mem_cons_self, here⟩
          · exact .inl between
          · rcases ih later with between | ⟨text, there, inside⟩
            · exact .inl between
            · exact .inr ⟨text, List.mem_cons_of_mem _ there, inside⟩

theorem cases_of_mem_humanText {d : Duration} {c : Char} (member : c ∈ d.humanText.toList) :
    c = ' ' ∨ c.isDigit = true ∨ isUnitLetter c = true := by
  unfold humanText at member
  split at member
  · have zero : c ∈ ['0', 's'] := member
    rw [List.mem_cons, List.mem_singleton] at zero
    rcases zero with rfl | rfl
    · exact .inr (.inl rfl)
    · exact .inr (.inr rfl)
  · rw [String.toList_intercalate, humanFields_eq, List.map_map] at member
    rcases mem_of_mem_intercalate member with blank | ⟨text, there, inside⟩
    · exact .inl (List.mem_singleton.1 blank)
    · obtain ⟨x, written, rfl⟩ := List.mem_map.1 there
      have legible := legible_of_mem_spans written
      rw [Function.comp_apply, Span.text_toList, List.mem_append] at inside
      rcases inside with digit | letter
      · exact .inr (.inl (Nat.isDigit_of_mem_toDigits (by decide) (by decide) digit))
      · exact .inr (.inr (isLetter_of_mem_name legible.named letter).letter)

end DeliveryBench.Duration
