import DeliveryBench.Proofs.Duration.LastSecond
import DeliveryBench.Proofs.Settings.Layers

/-!
# Where reading settings stops the whole program

All that is wrong with a document or a variable is reported, but for one thing: a duration whose
spans fill up the last second (`Duration.RunsFull`). This stops the program if nothing before it is
at fault (`settings_stop_program_iff`).
-/

namespace DeliveryBench

open Toml (Fields Node)

namespace Variable

variable {var : Variable} {value : Node} {text : String} {message : String}

theorem stops_iff {text : List Char} :
    var.Stops text ↔ var.isDuration = true ∧ Duration.RunsFull text := by
  rw [← Duration.readHuman_eq_carryOverflow_iff]
  cases var with
  | waitTimeout | stopTimeout | startupSettle =>
      rw [and_iff_right (show isDuration _ = true from rfl)]
      exact readingOfDuration_eq_error_iff
  | publishMode => exact iff_of_false (not_stops_publishMode text) fun both => nomatch both.1
  | failOnHandlerError =>
      exact iff_of_false (not_stops_failOnHandlerError text) fun both => nomatch both.1

theorem meaning?_of_stops (stops : var.Stops text.toList) : var.meaning? (.text text) = none := by
  cases var with
  | waitTimeout | stopTimeout | startupSettle =>
      show (Duration.readHuman text.toList).toOption = none
      rw [readingOfDuration_eq_error_iff.1 stops]
      rfl
  | publishMode => exact absurd stops (not_stops_publishMode _)
  | failOnHandlerError => exact absurd stops (not_stops_failOnHandlerError _)

theorem blameEntry_eq_crashed_iff : var.blameEntry value = .crashed message ↔
    ∃ text, value = .text text ∧ var.Stops text.toList ∧
      Duration.ReadFault.carryOverflow.message = message := by
  constructor
  · intro crashed
    by_cases calm : ∀ text, value = .text text → ¬ var.Stops text.toList
    · rw [blameEntry_of_calm calm] at crashed
      cases crashed
    · obtain ⟨text, calm⟩ := not_forall.1 calm
      obtain ⟨rfl, stops⟩ := Classical.not_imp.1 calm
      replace stops := not_not.1 stops
      rw [blameEntry_of_stops stops] at crashed
      exact ⟨text, rfl, stops, SettingsFault.crashed.inj crashed⟩
  · rintro ⟨text, rfl, stops, rfl⟩
    exact blameEntry_of_stops stops

theorem blame_eq_crashed_iff {fault : ValueFault} : var.blame text fault = .crashed message ↔
    fault = .duration .carryOverflow ∧ Duration.ReadFault.carryOverflow.message = message := by
  unfold blame
  split <;> simp_all

end Variable

namespace Settings

variable {s : Settings} {env : Environment} {file : Option FileContent} {document message : String}

theorem ofToml_eq_crashed_iff : ofToml document = .error (.crashed message) ↔
    DocumentStops document ∧ Duration.ReadFault.carryOverflow.message = message := by
  unfold ofToml
  constructor
  · intro crashed
    cases parsed : Toml.parse? document with
    | none =>
        rw [parsed] at crashed
        cases crashed
    | some fields =>
        rw [parsed] at crashed
        obtain ⟨before, after, var, value, split, acceptable, -, blamed⟩ :=
          foldlM_withEntry_eq_error_iff.1 crashed
        obtain ⟨text, rfl, stops, same⟩ := Variable.blameEntry_eq_crashed_iff.1 blamed
        exact ⟨.intro parsed split acceptable stops, same⟩
  · intro both
    obtain ⟨stops, same⟩ := both
    cases stops with
    | intro parsed split acceptable stops =>
        rw [parsed]
        exact foldlM_withEntry_eq_error_iff.2 ⟨_, _, _, _, split, acceptable,
          Variable.meaning?_of_stops stops,
          Variable.blameEntry_eq_crashed_iff.2 ⟨_, rfl, stops, same⟩⟩

theorem withEnvironment_eq_crashed_iff : s.withEnvironment env = .error (.crashed message) ↔
    EnvironmentStops env ∧ Duration.ReadFault.carryOverflow.message = message := by
  rw [withEnvironment_eq_error_iff_exists]
  constructor
  · intro crashed
    obtain ⟨before, after, var, text, fault, split, good, set, unread, blamed⟩ := crashed
    obtain ⟨rfl, same⟩ := Variable.blame_eq_crashed_iff.1 blamed
    exact ⟨.intro split (fun earlier member => (isSome_overridden?_iff _).1 (good earlier member))
      set unread, same⟩
  · intro both
    obtain ⟨stops, same⟩ := both
    cases stops with
    | intro split wellSet set stops =>
        exact ⟨_, _, _, _, _, split,
          fun earlier member => (isSome_overridden?_iff _).2 (wellSet earlier member), set, stops,
          Variable.blame_eq_crashed_iff.2 ⟨rfl, same⟩⟩

theorem base_eq_crashed_iff : base file = .error (.crashed message) ↔
    ∃ content, file = some (.text content) ∧ ofToml content = .error (.crashed message) := by
  cases file with
  | none => simp [base]
  | some content =>
      cases content with
      | unreadable => simp [base, ofFile]
      | text content => simp [base, ofFile]

theorem validate_ne_crashed : s.validate ≠ .error (.crashed message) := by
  intro crashed
  rcases validate_eq_error_iff.1 crashed with wait | stop
  · cases wait.2
  · cases stop.2.2

theorem load_eq_crashed_iff : load file env = .error (.crashed message) ↔
    ((∃ content, file = some (.text content) ∧ DocumentStops content) ∨
      (∃ fields, Readable file fields) ∧ EnvironmentStops env) ∧
      Duration.ReadFault.carryOverflow.message = message := by
  have exists_base_iff : (∃ s, base file = .ok s) ↔ ∃ fields, Readable file fields := by
    constructor
    · intro found
      obtain ⟨s, read⟩ := found
      obtain ⟨fields, readable, -⟩ := exists_readable read
      exact ⟨fields, readable⟩
    · intro found
      obtain ⟨fields, readable⟩ := found
      obtain ⟨s, read, -⟩ := readable.exists_base
      exact ⟨s, read⟩
  rw [load_eq_error_iff, base_eq_crashed_iff, ← exists_base_iff]
  simp only [ofToml_eq_crashed_iff, withEnvironment_eq_crashed_iff, validate_ne_crashed, and_false,
    exists_false, or_false]
  constructor
  · intro crashed
    rcases crashed with ⟨content, there, stops, same⟩ | ⟨s, read, stops, same⟩
    · exact ⟨.inl ⟨content, there, stops⟩, same⟩
    · exact ⟨.inr ⟨⟨s, read⟩, stops⟩, same⟩
  · intro both
    obtain ⟨⟨content, there, stops⟩ | ⟨⟨s, read⟩, stops⟩, same⟩ := both
    · exact .inl ⟨content, there, stops, same⟩
    · exact .inr ⟨s, read, stops, same⟩

/-- **Reading settings comes to settings or to a fault in all cases but one**: the first thing at
fault is a duration of which a span fills up the last second exactly. The program stops at such a
duration in a document, and at one in the environment unless the document has been refused; nowhere
else. -/
theorem settings_stop_program_iff (document : String) (s : Settings) (file : Option FileContent)
    (env : Environment) (message : String) :
    (ofToml document = .error (.crashed message) ↔
      DocumentStops document ∧ Duration.ReadFault.carryOverflow.message = message) ∧
    (s.withEnvironment env = .error (.crashed message) ↔
      EnvironmentStops env ∧ Duration.ReadFault.carryOverflow.message = message) ∧
    (load file env = .error (.crashed message) ↔
      ((∃ content, file = some (.text content) ∧ DocumentStops content) ∨
        (∃ fields, Readable file fields) ∧ EnvironmentStops env) ∧
        Duration.ReadFault.carryOverflow.message = message) ∧
    ∀ (var : Variable) (text : List Char),
      var.Stops text ↔ var.isDuration = true ∧ Duration.RunsFull text :=
  ⟨ofToml_eq_crashed_iff, withEnvironment_eq_crashed_iff, load_eq_crashed_iff,
    fun _ _ => Variable.stops_iff⟩

/-- Of three documents that differ by a millisecond from one to the next, the first is read, the last
is refused, and the one between them stops the program. -/
theorem last_second_filled_up :
    ofToml "wait_timeout = \"18446744073709551615s 999ms\"\n" =
      .ok { waitTimeout := ⟨18446744073709551615, 999000000, by decide, by decide⟩ } ∧
    ofToml "wait_timeout = \"18446744073709551615s 1000ms\"\n" =
      .error (.crashed "overflow in Duration::new") ∧
    ofToml "wait_timeout = \"18446744073709551615s 1001ms\"\n" = .error .malformed := by
  have read {document : String} (text : String) {result : Except SettingsFault Settings}
      (written : document.toList = (textLine "wait_timeout" text).chars)
      (plain : (text.toList.all Toml.isPlain) = true)
      (taken : withEntry {} ("wait_timeout", .text text) = result) : ofToml document = result := by
    unfold ofToml
    rw [parse?_textLine written (.of_all (by decide) (by decide)) (List.all_eq_true.1 plain),
      ← taken]
    exact bind_pure _
  exact ⟨read "18446744073709551615s 999ms" (by decide) (by decide) (by decide +kernel),
    read "18446744073709551615s 1000ms" (by decide) (by decide) (by decide),
    read "18446744073709551615s 1001ms" (by decide) (by decide) (by decide)⟩

end Settings

end DeliveryBench
