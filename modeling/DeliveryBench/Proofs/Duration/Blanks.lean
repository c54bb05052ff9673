import DeliveryBench.Duration.HumanReader
import Mathlib.Data.List.DropRight

/-!
# Blanks around a duration

A text that is a duration is the same duration without the blanks at its two ends
(`readHuman_trim`). Blanks in front leave the reader where it was, but for the offsets that it keeps
for faults, and these never come into a duration (`Scan.value?_plain`). A blank at the end does no
more than close the last span, as the end of the text does (`Scan.finish_of_step_blank`).
-/

namespace DeliveryBench.Duration

theorem not_isDigit_of_isBlank {c : Char} (blank : Text.isBlank c = true) : c.isDigit = false := by
  rw [Bool.eq_false_iff]
  intro digit
  simp only [Char.isDigit, Bool.and_eq_true, decide_eq_true_eq] at digit
  have lower : 48 ≤ c.toNat := digit.1
  have upper : c.toNat ≤ 57 := digit.2
  simp only [Text.isBlank, Text.inRanges, Text.blankRanges] at blank
  grind

theorem digit?_of_isBlank {c : Char} (blank : Text.isBlank c = true) : digit? c = none := by
  unfold digit?
  rw [not_isDigit_of_isBlank blank]
  rfl

/-! ## Offsets -/

/-- A part of a text without its offset. -/
def Part.plain : Part → Part
  | .gap _ => .gap 0
  | .fraction n digits _ => .fraction n digits 0
  | part => part

namespace Scan

/-- A reading without its offsets. -/
def plain (s : Scan) : Scan :=
  { s with part := s.part.plain, offset := 0 }

variable {s s' : Scan} {c : Char} {cs : List Char} {d : Duration}

theorem stepGap_plain (mark mark' : Nat) (c : Char) :
    (stepGap mark c).toOption.map Part.plain = (stepGap mark' c).toOption.map Part.plain := by
  unfold stepGap
  split
  · rfl
  · split <;> rfl

theorem stepNumber_plain (offset offset' n : Nat) (c : Char) :
    (stepNumber offset n c).toOption.map Part.plain =
      (stepNumber offset' n c).toOption.map Part.plain := by
  unfold stepNumber
  split
  · split <;> rfl
  · repeat' split
    all_goals rfl

theorem stepFraction_plain (offset offset' n : Nat) (digits : Fraction) (mark mark' : Nat)
    (c : Char) : (stepFraction offset n digits mark c).toOption.map Part.plain =
      (stepFraction offset' n digits mark' c).toOption.map Part.plain := by
  unfold stepFraction
  split
  · split <;> rfl
  · repeat' split
    all_goals rfl

/-- Offsets do not matter for a step. -/
theorem step_plain (s : Scan) (c : Char) :
    (s.plain.step c).toOption.map plain = (s.step c).toOption.map plain := by
  obtain ⟨part, offset, begun, sum⟩ := s
  have next {part part' : Except ReadFault Part} {begun : Bool} (o o' : Nat)
      (same : part.toOption.map Part.plain = part'.toOption.map Part.plain) :
      (part >>= fun p => pure (⟨p, o, begun, sum⟩ : Scan)).toOption.map plain =
        (part' >>= fun p => pure (⟨p, o', begun, sum⟩ : Scan)).toOption.map plain := by
    cases part with
    | error fault =>
        cases part' with
        | error fault' => rfl
        | ok p => cases same
    | ok p =>
        cases part' with
        | error fault' => cases same
        | ok p' =>
            have plains : p.plain = p'.plain := Option.some.inj same
            show some (plain _) = some (plain _)
            unfold plain
            rw [plains]
  cases part with
  | gap mark => exact next _ _ (stepGap_plain 0 mark c)
  | number n => exact next _ _ (stepNumber_plain 0 offset n c)
  | fraction n digits mark => exact next _ _ (stepFraction_plain 0 offset n digits 0 mark c)
  | unit n digits letters =>
      unfold step plain Part.plain
      dsimp only
      split
      · cases sum.plusSpan n digits letters <;> rfl
      · split
        · cases sum.plusSpan n digits letters <;> rfl
        · split <;> rfl

theorem finish_plain (s : Scan) : s.plain.finish.toOption = s.finish.toOption := by
  obtain ⟨part, offset, begun, sum⟩ := s
  cases part with
  | gap mark => rfl
  | number n => rfl
  | fraction n digits mark =>
      unfold finish plain Part.plain
      dsimp only
      split <;> rfl
  | unit n digits letters => rfl

/-- The duration that a reading comes to with the rest of a text. -/
def value? (s : Scan) (cs : List Char) : Option Duration :=
  (cs.foldlM step s >>= finish).toOption

theorem value?_cons (s : Scan) (c : Char) (cs : List Char) :
    s.value? (c :: cs) = (s.step c).toOption.bind fun s' => s'.value? cs := by
  unfold value?
  rw [List.foldlM_cons]
  cases s.step c <;> rfl

theorem value?_plain (s : Scan) (cs : List Char) : s.plain.value? cs = s.value? cs := by
  induction cs generalizing s with
  | nil => exact s.finish_plain
  | cons c rest ih =>
      have through (taken : Option Scan) : (taken.bind fun s' => s'.value? rest) =
          (taken.map plain).bind fun s' => s'.value? rest := by
        cases taken with
        | none => rfl
        | some s' => exact (ih s').symm
      rw [value?_cons, value?_cons, through, step_plain, ← through]

/-! ## In front -/

theorem value?_of_blank {mark : Nat} (gap : s.part = .gap mark) (blank : Text.isBlank c = true) :
    s.value? (c :: cs) = s.value? cs := by
  obtain ⟨part, offset, begun, sum⟩ := s
  subst gap
  have taken : step ⟨.gap mark, offset, begun, sum⟩ c =
      .ok ⟨.gap mark, offset + c.utf8Size, begun, sum⟩ := by
    unfold step stepGap
    dsimp only
    rw [digit?_of_isBlank blank, blank, not_isDigit_of_isBlank blank, Bool.or_false]
    rfl
  rw [value?_cons, taken, ← value?_plain ⟨.gap mark, offset, begun, sum⟩]
  exact (value?_plain _ cs).symm

/-- Where a number is looked for, blanks can be left out. -/
theorem value?_dropWhile {mark : Nat} (gap : s.part = .gap mark) :
    s.value? (cs.dropWhile Text.isBlank) = s.value? cs := by
  induction cs with
  | nil => rfl
  | cons c rest ih =>
      cases blank : Text.isBlank c with
      | false => rw [List.dropWhile_cons_of_neg (by rw [blank]; exact Bool.false_ne_true)]
      | true => rw [List.dropWhile_cons_of_pos blank, ih, value?_of_blank gap blank]

/-! ## At the end -/

/-- What comes to a duration after a blank comes to it without. -/
theorem finish_of_step_blank (blank : Text.isBlank c = true) (taken : s.step c = .ok s')
    (finished : s'.finish = .ok d) : s.finish = .ok d := by
  obtain ⟨part, offset, begun, sum⟩ := s
  unfold step at taken
  cases part with
  | gap mark =>
      unfold stepGap at taken
      dsimp only at taken
      rw [digit?_of_isBlank blank, blank, not_isDigit_of_isBlank blank, Bool.or_false] at taken
      cases taken
      exact finished
  | number n =>
      unfold stepNumber at taken
      dsimp only at taken
      rw [digit?_of_isBlank blank, blank] at taken
      cases taken
      exact finished
  | fraction n digits mark =>
      unfold stepFraction at taken
      dsimp only at taken
      rw [digit?_of_isBlank blank, blank] at taken
      cases taken
      unfold finish at finished ⊢
      dsimp only at finished ⊢
      split at finished
      · cases finished
      · rename_i some
        rw [if_neg some]
        exact finished
  | unit n digits letters =>
      dsimp only at taken
      rw [digit?_of_isBlank blank, blank] at taken
      unfold finish
      dsimp only
      cases added : sum.plusSpan n digits letters with
      | error fault =>
          rw [added] at taken
          cases taken
      | ok sum' =>
          rw [added] at taken
          cases taken
          unfold finish at finished
          dsimp only at finished
          split at finished
          · exact finished
          · cases finished

theorem value?_eq_some_iff : s.value? cs = some d ↔ cs.foldlM step s >>= finish = .ok d := by
  unfold value?
  cases cs.foldlM step s >>= finish <;> simp [Except.toOption]

theorem value?_of_concat_blank (blank : Text.isBlank c = true)
    (comes : s.value? (cs ++ [c]) = some d) : s.value? cs = some d := by
  rw [value?_eq_some_iff, List.foldlM_append] at comes
  simp only [List.foldlM_cons, List.foldlM_nil, bind_pure] at comes
  rw [value?_eq_some_iff]
  cases read : cs.foldlM step s with
  | error fault =>
      rw [read] at comes
      cases comes
  | ok s' =>
      rw [read] at comes
      replace comes : s'.step c >>= finish = .ok d := comes
      cases taken : s'.step c with
      | error fault =>
          rw [taken] at comes
          cases comes
      | ok s'' =>
          rw [taken] at comes
          exact finish_of_step_blank blank taken comes

theorem value?_rdropWhile (comes : s.value? cs = some d) :
    s.value? (cs.rdropWhile Text.isBlank) = some d := by
  induction cs using List.reverseRecOn with
  | nil => exact comes
  | append_singleton front c ih =>
      rw [List.rdropWhile_concat]
      split
      · rename_i blank
        exact ih (value?_of_concat_blank blank comes)
      · exact comes

end Scan

/-- A duration is read without the blanks around it as it is with them. -/
theorem readHuman_trim {text : List Char} {d : Duration} (read : readHuman text = .ok d) :
    readHuman (Text.trim text) = .ok d := by
  have trimmed : Text.trim text = (text.dropWhile Text.isBlank).rdropWhile Text.isBlank := rfl
  unfold readHuman at read
  split at read
  · rename_i zero
    subst zero
    exact read
  · have comes : ({} : Scan).value? (Text.trim text) = some d := by
      rw [trimmed]
      apply Scan.value?_rdropWhile
      rw [Scan.value?_dropWhile rfl]
      exact Scan.value?_eq_some_iff.2 read
    unfold readHuman
    split
    · rename_i zero
      -- a lone digit would be a number without a unit
      rw [zero] at comes
      cases comes
    · exact Scan.value?_eq_some_iff.1 comes

end DeliveryBench.Duration
