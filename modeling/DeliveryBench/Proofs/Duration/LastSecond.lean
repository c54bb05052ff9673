import DeliveryBench.Duration.LastSecond
import DeliveryBench.Proofs.Failing

/-!
# The carry that runs over

`readHuman_eq_carryOverflow_iff` says of which texts reading does not come to an end. Only adding a
span can run into the carry, and it does so for its whole part or for its fraction, exactly if this
fills up the last second (`plusSpan_eq_carryOverflow_iff`).
-/

namespace DeliveryBench

namespace Duration

/-! ## Adding a span -/

theorem ofParts?_eq_none_iff {secs nanos : Nat} :
    ofParts? secs nanos = none ↔ ¬ (secs < Word.limit ∧ nanos < 1000000000) := by
  unfold ofParts?
  split <;> simp_all

variable {sum : Duration} {secs nanos number : Nat} {unit : TimeUnit}

/-- The seconds are checked before the carry, so they are in the last word when it runs over. -/
theorem plus_of_full (full : sum.nanos + nanos = 1000000000) :
    sum.plus secs nanos = .error .carryOverflow ↔ sum.secs + secs + 1 = Word.limit := by
  have word : 1000000000 < Word.limit := by decide
  have carried : ¬ 1000000000 > 1000000000 := Nat.lt_irrefl _
  unfold plus
  rw [Word.add?_eq_some_iff.2 ⟨full, word⟩]
  dsimp only
  rw [if_neg carried, if_neg carried, if_pos rfl, if_pos rfl]
  cases added : (Word.add? secs 0).bind (Word.add? sum.secs) with
  | none =>
      -- the check finds what the carry would have run into
      suffices sum.secs + secs + 1 ≠ Word.limit by simpa
      intro last
      have fits : (Word.add? secs 0).bind (Word.add? sum.secs) = some (sum.secs + secs) := by
        rw [Word.add?_eq_some_iff.2 ⟨Nat.add_zero secs, by omega⟩]
        exact Word.add?_eq_some_iff.2 ⟨rfl, by omega⟩
      cases added.symm.trans fits
  | some allSecs =>
      obtain ⟨secs', first, second⟩ := Option.bind_eq_some_iff.1 added
      obtain ⟨rfl, -⟩ := Word.add?_eq_some_iff.1 first
      obtain ⟨rfl, small⟩ := Word.add?_eq_some_iff.1 second
      rw [Nat.add_zero] at small ⊢
      dsimp only
      cases parts : ofParts? (sum.secs + secs + 1) 0 with
      | none =>
          have out := ofParts?_eq_none_iff.1 parts
          suffices sum.secs + secs + 1 = Word.limit by simpa
          omega
      | some d =>
          suffices sum.secs + secs + 1 ≠ Word.limit by simpa
          intro last
          cases parts.symm.trans (ofParts?_eq_none_iff.2 (by omega))

theorem plus_of_not_full (notFull : sum.nanos + nanos ≠ 1000000000) :
    sum.plus secs nanos ≠ .error .carryOverflow := by
  unfold plus
  cases total : Word.add? sum.nanos nanos with
  | none => exact nofun
  | some allNanos =>
      obtain ⟨rfl, -⟩ := Word.add?_eq_some_iff.1 total
      dsimp only
      have small : (if sum.nanos + nanos > 1000000000 then (sum.nanos + nanos) % 1000000000
          else sum.nanos + nanos) < 1000000000 := by
        split
        · exact Nat.mod_lt _ (by decide)
        · omega
      generalize (if sum.nanos + nanos > 1000000000 then (sum.nanos + nanos) % 1000000000
        else sum.nanos + nanos) = rest at small ⊢
      rw [if_neg (Nat.ne_of_lt small), if_neg (Nat.ne_of_lt small)]
      cases added : (Word.add? secs (if sum.nanos + nanos > 1000000000 then
          (sum.nanos + nanos) / 1000000000 else 0)).bind (Word.add? sum.secs) with
      | none => exact nofun
      | some allSecs =>
          obtain ⟨secs', -, second⟩ := Option.bind_eq_some_iff.1 added
          obtain ⟨-, word⟩ := Word.add?_eq_some_iff.1 second
          dsimp only
          cases parts : ofParts? (allSecs + 0) rest with
          | none => exact absurd ⟨word, small⟩ (ofParts?_eq_none_iff.1 parts)
          | some d => exact nofun

theorem plus_eq_carryOverflow_iff : sum.plus secs nanos = .error .carryOverflow ↔
    sum.secs + secs + 1 = Word.limit ∧ sum.nanos + nanos = 1000000000 := by
  by_cases full : sum.nanos + nanos = 1000000000
  · rw [plus_of_full full, and_iff_left full]
  · exact ⟨fun overrun => absurd overrun (plus_of_not_full full), fun both => absurd both.2 full⟩

theorem plus_nanos_eq_carryOverflow_iff :
    sum.plus 0 nanos = .error .carryOverflow ↔ FillsUp sum nanos := by
  rw [plus_eq_carryOverflow_iff, Nat.add_zero]
  exact Iff.rfl

/-- Whole seconds cannot fill up a second that has not passed. -/
theorem plus_secs_ne_carryOverflow : sum.plus secs 0 ≠ .error .carryOverflow :=
  plus_of_not_full (Nat.ne_of_lt sum.nanos_lt)

theorem plusWhole_eq_carryOverflow_iff : sum.plusWhole number unit = .error .carryOverflow ↔
    TimeUnit.countsNanos unit = true ∧ FillsUp sum (number * unit.nanos) := by
  unfold plusWhole
  split
  · rename_i short
    rw [and_iff_right short]
    cases product : Word.mul? number unit.nanos with
    | none =>
        suffices ¬ FillsUp sum (number * unit.nanos) by simpa
        intro fills
        have word : number * unit.nanos < Word.limit :=
          Nat.lt_of_le_of_lt (by have := fills.2; omega) (show 1000000000 < Word.limit by decide)
        cases product.symm.trans (Word.mul?_eq_some_iff.2 ⟨rfl, word⟩)
    | some nanos =>
        obtain ⟨rfl, -⟩ := Word.mul?_eq_some_iff.1 product
        exact plus_nanos_eq_carryOverflow_iff
  · rename_i long
    refine ⟨fun overrun => ?_, fun both => absurd both.1 long⟩
    cases product : Word.mul? number (unit.nanos / 1000000000) with
    | none =>
        rw [product] at overrun
        cases overrun
    | some secs =>
        rw [product] at overrun
        exact absurd overrun plus_secs_ne_carryOverflow

theorem exactQuotient?_eq_some_iff {a b quotient : Nat} :
    exactQuotient? a b = some quotient ↔ a % b = 0 ∧ a / b = quotient := by
  unfold exactQuotient?
  split <;> simp_all

theorem plusFraction_eq_carryOverflow_iff {f : Fraction} :
    sum.plusFraction f unit = .error .carryOverflow ↔ TimeUnit.partsCountNanos unit = true ∧
      ∃ nanos, Word.mul? f.numerator unit.nanos = some nanos ∧ nanos % f.denominator = 0 ∧
        FillsUp sum (nanos / f.denominator) := by
  have quotient_iff {number : Nat} : (∃ nanos, Word.mul? f.numerator number = some nanos ∧
      nanos % f.denominator = 0 ∧ FillsUp sum (nanos / f.denominator)) ↔
        ∃ nanos, (Word.mul? f.numerator number).bind (exactQuotient? · f.denominator) = some nanos ∧
          FillsUp sum nanos := by
    simp only [Option.bind_eq_some_iff, exactQuotient?_eq_some_iff]
    constructor
    · rintro ⟨nanos, product, exact, fills⟩
      exact ⟨_, ⟨nanos, product, exact, rfl⟩, fills⟩
    · rintro ⟨_, ⟨nanos, product, exact, rfl⟩, fills⟩
      exact ⟨nanos, product, exact, fills⟩
  rw [quotient_iff]
  unfold plusFraction
  -- the numbers are put aside before the unit is known, so that nothing computes with them
  generalize (Word.mul? f.numerator unit.nanos).bind (exactQuotient? · f.denominator) = nanos?
  generalize (Word.mul? f.numerator (unit.nanos / 1000000000)).bind
    (exactQuotient? · f.denominator) = secs?
  cases unit with
  | nanosecond => simp [TimeUnit.partsCountNanos]
  | microsecond | millisecond | second | minute =>
      cases nanos? with
      | none => simp
      | some nanos => simpa [TimeUnit.partsCountNanos] using plus_nanos_eq_carryOverflow_iff
  | hour | day | week | month | year =>
      cases secs? with
      | none => simp [TimeUnit.partsCountNanos]
      | some secs => simpa [TimeUnit.partsCountNanos] using plus_secs_ne_carryOverflow

theorem spanFillsUp_iff {fraction : Option Fraction} : SpanFillsUp sum number unit fraction ↔
    sum.plusWhole number unit = .error .carryOverflow ∨
      ∃ sum' f, sum.plusWhole number unit = .ok sum' ∧ fraction = some f ∧
        sum'.plusFraction f unit = .error .carryOverflow := by
  simp only [plusWhole_eq_carryOverflow_iff, plusFraction_eq_carryOverflow_iff]
  constructor
  · intro fills
    cases fills with
    | whole short fills => exact .inl ⟨short, fills⟩
    | fraction whole parts product exact fills =>
        exact .inr ⟨_, _, whole, rfl, parts, _, product, exact, fills⟩
  · rintro (⟨short, fills⟩ | ⟨sum', f, whole, rfl, parts, nanos, product, exact, fills⟩)
    · exact .whole short fills
    · exact .fraction whole parts product exact fills

/-- Without the name of a unit the fault is another one. -/
theorem plusSpan_eq_carryOverflow_iff {fraction : Option Fraction} {letters : List Char} :
    sum.plusSpan number fraction letters = .error .carryOverflow ↔
      ∃ unit, TimeUnit.ofName? (String.ofList letters) = some unit ∧
        SpanFillsUp sum number unit fraction := by
  have noName : TimeUnit.ofName? (String.ofList []) = none := by decide
  unfold plusSpan
  split
  · rename_i none
    rw [List.isEmpty_iff.1 none, noName]
    simp
  · cases TimeUnit.ofName? (String.ofList letters) with
    | none => simp
    | some unit =>
        simp only [Option.some.injEq, exists_eq_left', spanFillsUp_iff]
        cases sum.plusWhole number unit with
        | error fault => simp
        | ok sum' => cases fraction <;> simp

/-! ## The characters -/

namespace Scan

variable {s : Scan} {c : Char}

theorem stepGap_ne_carryOverflow (mark : Nat) : stepGap mark c ≠ .error .carryOverflow := by
  unfold stepGap
  repeat' split
  all_goals exact nofun

theorem stepNumber_ne_carryOverflow (offset n : Nat) :
    stepNumber offset n c ≠ .error .carryOverflow := by
  unfold stepNumber
  repeat' split
  all_goals exact nofun

theorem stepFraction_ne_carryOverflow (offset n : Nat) (digits : Fraction) (mark : Nat) :
    stepFraction offset n digits mark c ≠ .error .carryOverflow := by
  unfold stepFraction
  repeat' split
  all_goals exact nofun

theorem step_eq_carryOverflow_iff : s.step c = .error .carryOverflow ↔
    ∃ n fraction letters, s.part = .unit n fraction letters ∧
      (c.isDigit = true ∨ Text.isBlank c = true) ∧
      s.sum.plusSpan n fraction letters = .error .carryOverflow := by
  obtain ⟨part, offset, begun, sum⟩ := s
  unfold step
  constructor
  · intro overrun
    cases part with
    | gap mark => exact absurd (bind_pure_eq_error_iff.1 overrun) (stepGap_ne_carryOverflow mark)
    | number n =>
        exact absurd (bind_pure_eq_error_iff.1 overrun) (stepNumber_ne_carryOverflow offset n)
    | fraction n digits mark =>
        exact absurd (bind_pure_eq_error_iff.1 overrun)
          (stepFraction_ne_carryOverflow offset n digits mark)
    | unit n fraction letters =>
        refine ⟨n, fraction, letters, rfl, ?_⟩
        unfold digit? at overrun
        dsimp only at overrun
        split at overrun
        · rename_i digit
          split at digit
          · rename_i isDigit
            exact ⟨.inl isDigit, bind_pure_eq_error_iff.1 overrun⟩
          · cases digit
        · split at overrun
          · rename_i blank
            exact ⟨.inr blank, bind_pure_eq_error_iff.1 overrun⟩
          · split at overrun <;> cases overrun
  · rintro ⟨n, fraction, letters, unit, ends, overrun⟩
    cases unit
    dsimp only at overrun ⊢
    unfold digit?
    by_cases digit : c.isDigit = true
    · rw [if_pos digit]
      exact bind_pure_eq_error_iff.2 overrun
    · rw [if_neg digit, ends.resolve_left digit]
      exact bind_pure_eq_error_iff.2 overrun

theorem finish_eq_carryOverflow_iff : s.finish = .error .carryOverflow ↔
    ∃ n fraction letters, s.part = .unit n fraction letters ∧
      s.sum.plusSpan n fraction letters = .error .carryOverflow := by
  obtain ⟨part, offset, begun, sum⟩ := s
  unfold finish
  cases part with
  | gap mark => cases begun <;> simp
  | number n => simp [plusSpan]
  | fraction n digits mark =>
      dsimp only
      split <;> simp [plusSpan]
  | unit n fraction letters =>
      constructor
      · exact fun overrun => ⟨n, fraction, letters, rfl, overrun⟩
      · rintro ⟨n', fraction', letters', unit, overrun⟩
        cases unit
        exact overrun

end Scan

/-- The text of a lone zero is read apart, but it is no matter here. -/
theorem readHuman_eq_carryOverflow_iff_foldlM {text : List Char} :
    readHuman text = .error .carryOverflow ↔
      text.foldlM Scan.step {} >>= Scan.finish = .error .carryOverflow := by
  unfold readHuman
  split
  · rename_i zero
    have unitMissing : text.foldlM Scan.step {} >>= Scan.finish = .error (.unitMissing 0) := by
      rw [zero]
      rfl
    rw [unitMissing]
    exact ⟨nofun, nofun⟩
  · exact Iff.rfl

/-- Reading stops the program at those texts in which a span fills up the last second. -/
theorem readHuman_eq_carryOverflow_iff {text : List Char} :
    readHuman text = .error .carryOverflow ↔ RunsFull text := by
  rw [readHuman_eq_carryOverflow_iff_foldlM]
  constructor
  · intro overrun
    cases read : text.foldlM Scan.step {} with
    | error fault =>
        rw [read] at overrun
        cases overrun
        obtain ⟨front, c, back, scan, split, through, last⟩ := foldlM_eq_error_iff.1 read
        obtain ⟨n, fraction, letters, part, ends, overrun⟩ := Scan.step_eq_carryOverflow_iff.1 last
        obtain ⟨unit, named, fills⟩ := plusSpan_eq_carryOverflow_iff.1 overrun
        exact .intro split through part ends named fills
    | ok scan =>
        rw [read] at overrun
        obtain ⟨n, fraction, letters, part, overrun⟩ := Scan.finish_eq_carryOverflow_iff.1 overrun
        obtain ⟨unit, named, fills⟩ := plusSpan_eq_carryOverflow_iff.1 overrun
        exact .intro (List.append_nil text).symm read part trivial named fills
  · rintro @⟨front, back, scan, n, fraction, letters, unit, split, through, part, ends, named, fills⟩
    have overrun := plusSpan_eq_carryOverflow_iff.2 ⟨unit, named, fills⟩
    cases back with
    | nil =>
        rw [split, List.append_nil, through]
        exact Scan.finish_eq_carryOverflow_iff.2 ⟨n, fraction, letters, part, overrun⟩
    | cons c rest =>
        have last := Scan.step_eq_carryOverflow_iff.2 ⟨n, fraction, letters, part, ends, overrun⟩
        rw [foldlM_eq_error_iff.2 ⟨front, c, rest, scan, split, through, last⟩]
        rfl

end Duration

end DeliveryBench
