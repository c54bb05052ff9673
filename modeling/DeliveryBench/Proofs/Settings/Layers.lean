import DeliveryBench.Proofs.Settings.Document
import DeliveryBench.Proofs.Settings.RoundTrip

/-!
# Settings in layers

Each setting is what its own variable has for it, or else what it was below
(`withEnvironment_eq_ok_iff`), and so the layers come to one value for each setting. Whether a
variable has a bad value depends on no other variable, so what is reported is the first fault in
order (`load_takes_layers_in_order`).
-/

namespace DeliveryBench

open Toml (Fields Distinct)

/-! ## Reading one variable -/

namespace Variable

/-- What becomes of a text that has no meaning for a setting. -/
def blame (var : Variable) (text : String) : ValueFault → SettingsFault
  | .duration .carryOverflow => .crashed Duration.ReadFault.carryOverflow.message
  | fault => .badVariable var text fault

theorem durationValue_eq (var : Variable) (text : String) : Settings.durationValue var text =
    (readingOfDuration (Text.trim text.toList)).mapError (var.blame text) := by
  unfold Settings.durationValue readingOfDuration
  cases Duration.readHuman (Text.trim text.toList) with
  | ok d => rfl
  | error fault => cases fault <;> rfl

theorem publishModeValue_eq (text : String) : Settings.publishModeValue .publishMode text =
    (reading .publishMode (Text.trim text.toList)).mapError (blame .publishMode text) := by
  unfold Settings.publishModeValue reading
  dsimp only
  cases PublishMode.ofName? (String.ofList (Text.trim text.toList)) <;> rfl

theorem flagValue_eq (text : String) : Settings.flagValue .failOnHandlerError text =
    (reading .failOnHandlerError (Text.trim text.toList)).mapError
      (blame .failOnHandlerError text) := by
  have same (name : String) :
      String.ofList (Text.trim text.toList) = name ↔ Text.trim text.toList = name.toList := by
    rw [← String.toList_inj, String.toList_ofList]
  unfold Settings.flagValue reading
  simp only [same]
  split
  · rfl
  · split <;> rfl

end Variable

namespace Settings

variable {s c : Settings} {var : Variable} {env : Environment}

/-! ## The environment -/

/-- What a setting becomes by its variable. -/
def taken (env : Environment) (s : Settings) : (var : Variable) → Except SettingsFault var.Value
  | .waitTimeout => overridden env .waitTimeout durationValue s.waitTimeout
  | .stopTimeout => overridden env .stopTimeout durationValue s.stopTimeout
  | .startupSettle => overridden env .startupSettle durationValue s.startupSettle
  | .publishMode => overridden env .publishMode publishModeValue s.publishMode
  | .failOnHandlerError => overridden env .failOnHandlerError flagValue s.failOnHandlerError

/-- What is wrong with the value of a variable, if anything. -/
def fault? (env : Environment) (var : Variable) : Option SettingsFault :=
  match (env var).value? with
  | some text =>
    match var.reading (Text.trim text.toList) with
    | .ok _ => none
    | .error fault => some (var.blame text fault)
  | none => none

theorem taken_of_none (unset : (env var).value? = none) (s : Settings) :
    taken env s var = .ok (s.get var) := by
  cases var <;> (unfold taken overridden; rw [unset]; rfl)

theorem taken_of_some {text : String} (set : (env var).value? = some text) (s : Settings) :
    taken env s var = (var.reading (Text.trim text.toList)).mapError (var.blame text) := by
  unfold taken overridden
  cases var with
  | waitTimeout | stopTimeout | startupSettle =>
      dsimp only
      rw [set]
      exact Variable.durationValue_eq _ _
  | publishMode =>
      dsimp only
      rw [set]
      exact Variable.publishModeValue_eq _
  | failOnHandlerError =>
      dsimp only
      rw [set]
      exact Variable.flagValue_eq _

theorem taken_eq_ok_iff {v : var.Value} : taken env s var = .ok v ↔
    overridden? env var (some (s.get var)) = some v := by
  unfold overridden?
  cases set : (env var).value? with
  | none => simp [taken_of_none set]
  | some text =>
      rw [taken_of_some set]
      dsimp only
      cases var.reading (Text.trim text.toList) <;> simp [Except.mapError, Except.toOption]

theorem taken_eq_error_iff {fault : SettingsFault} : taken env s var = .error fault ↔
    fault? env var = some fault := by
  unfold fault?
  cases set : (env var).value? with
  | none => simp [taken_of_none set]
  | some text =>
      rw [taken_of_some set]
      dsimp only
      cases var.reading (Text.trim text.toList) <;> simp [Except.mapError]

theorem withEnvironment_eq_bind (s : Settings) (env : Environment) : s.withEnvironment env = (do
    let waitTimeout ← taken env s .waitTimeout
    let stopTimeout ← taken env s .stopTimeout
    let startupSettle ← taken env s .startupSettle
    let publishMode ← taken env s .publishMode
    let failOnHandlerError ← taken env s .failOnHandlerError
    pure { waitTimeout, stopTimeout, startupSettle, publishMode, failOnHandlerError }) :=
  rfl

/-- Each setting is what its variable has for it, or what it was. -/
theorem withEnvironment_eq_ok_iff : s.withEnvironment env = .ok c ↔
    ∀ var, overridden? env var (some (s.get var)) = some (c.get var) := by
  rw [withEnvironment_eq_bind]
  simp only [← taken_eq_ok_iff]
  constructor
  · intro done
    obtain ⟨waitTimeout, wait, done⟩ := bind_eq_ok_iff.1 done
    obtain ⟨stopTimeout, stop, done⟩ := bind_eq_ok_iff.1 done
    obtain ⟨startupSettle, settle, done⟩ := bind_eq_ok_iff.1 done
    obtain ⟨publishMode, mode, done⟩ := bind_eq_ok_iff.1 done
    obtain ⟨failOnHandlerError, flag, done⟩ := bind_eq_ok_iff.1 done
    cases done
    intro var
    cases var with
    | waitTimeout => exact wait
    | stopTimeout => exact stop
    | startupSettle => exact settle
    | publishMode => exact mode
    | failOnHandlerError => exact flag
  · intro each
    simp only [each]
    rfl

/-- The settings with the value of one variable in place of their own. -/
def override (env : Environment) (s : Settings) (var : Variable) : Except SettingsFault Settings :=
  (taken env s var).map (s.set var)

theorem withEnvironment_eq_foldlM (s : Settings) (env : Environment) :
    s.withEnvironment env = Variable.all.foldlM (override env) s := by
  have map_bind {α : Type} (s : Settings) (var : Variable)
      (next : Settings → Except SettingsFault α) : override env s var >>= next = taken env s var >>= fun v => next (s.set var v) := by
    unfold override
    cases taken env s var <;> rfl
  rw [withEnvironment_eq_bind]
  unfold Variable.all
  simp only [List.foldlM_cons, List.foldlM_nil, map_bind]
  rfl

theorem withEnvironment_eq_error_iff {fault : SettingsFault} :
    s.withEnvironment env = .error fault ↔ Variable.all.findSome? (fault? env) = some fault := by
  have blames (s : Settings) (var : Variable) (fault : SettingsFault) :
      override env s var = .error fault ↔ fault? env var = some fault := by
    rw [← taken_eq_error_iff (s := s)]
    unfold override
    cases taken env s var <;> simp [Except.map]
  rw [withEnvironment_eq_foldlM]
  exact foldlM_eq_error_iff_findSome? blames

/-! ## All layers -/

variable {file : Option FileContent} {fault : SettingsFault}

/-- The settings below the environment. -/
def base (file : Option FileContent) : Except SettingsFault Settings :=
  match file with
  | none => .ok {}
  | some content => ofFile content

theorem load_eq_bind (file : Option FileContent) (env : Environment) : load file env =
    base file >>= fun s => s.withEnvironment env >>= fun c => c.validate >>= fun _ => .ok c := by
  cases file <;> rfl

theorem base_eq_ok_iff : base file = .ok s ↔ ∃ fields, entries? file = some fields ∧
    ∀ var, given? fields var (get {} var) = some (s.get var) := by
  have read (fields : Fields) (distinct : Distinct fields) : fields.foldlM withEntry {} = .ok s ↔
      ∃ fields', some fields = some fields' ∧
        ∀ var, given? fields' var (get {} var) = some (s.get var) := by
    simp only [Option.some.injEq, exists_eq_left']
    exact foldlM_withEntry_eq_ok_iff distinct
  unfold base entries?
  cases file with
  | none => exact read [] List.nodup_nil
  | some content =>
      cases content with
      | unreadable => simp [ofFile]
      | text content =>
          unfold ofFile ofToml
          dsimp only
          cases document : Toml.parse? content with
          | none => simp
          | some fields => exact read fields (Toml.distinct_of_parse? document)

theorem Readable.exists_base {fields : Fields} (readable : Readable file fields) :
    ∃ s, base file = .ok s ∧ ∀ var, given? fields var (get {} var) = some (s.get var) := by
  obtain ⟨s, each⟩ := exists_settings readable.2
  exact ⟨s, base_eq_ok_iff.2 ⟨fields, readable.1, each⟩, each⟩

theorem exists_readable (read : base file = .ok s) : ∃ fields, Readable file fields ∧
    ∀ var, given? fields var (get {} var) = some (s.get var) := by
  obtain ⟨fields, entries, each⟩ := base_eq_ok_iff.1 read
  exact ⟨fields, ⟨entries, fun var => by rw [each]; rfl⟩, each⟩

theorem validate_eq_ok_iff :
    s.validate = .ok () ↔ s.waitTimeout ≠ .zero ∧ s.stopTimeout ≠ .zero := by
  unfold validate
  simp only [Duration.isZero_iff]
  by_cases wait : s.waitTimeout = .zero
  · simp [wait]
  · by_cases stop : s.stopTimeout = .zero <;> simp [wait, stop]

theorem validate_eq_error_iff : s.validate = .error fault ↔
    (s.waitTimeout = .zero ∧ .zeroWaitTimeout = fault) ∨
      (s.waitTimeout ≠ .zero ∧ s.stopTimeout = .zero ∧ .zeroStopTimeout = fault) := by
  unfold validate
  simp only [Duration.isZero_iff]
  by_cases wait : s.waitTimeout = .zero
  · simp [wait]
  · by_cases stop : s.stopTimeout = .zero <;> simp [wait, stop]

theorem load_eq_ok_iff : load file env = .ok c ↔
    ∃ fields, Readable file fields ∧ (∀ var, layered? fields env var = some (c.get var)) ∧
      c.waitTimeout ≠ .zero ∧ c.stopTimeout ≠ .zero := by
  rw [load_eq_bind]
  constructor
  · intro done
    obtain ⟨s, read, done⟩ := bind_eq_ok_iff.1 done
    obtain ⟨c', overrides, done⟩ := bind_eq_ok_iff.1 done
    obtain ⟨⟨⟩, valid, done⟩ := bind_eq_ok_iff.1 done
    cases done
    obtain ⟨fields, readable, each⟩ := exists_readable read
    refine ⟨fields, readable, fun var => ?_, validate_eq_ok_iff.1 valid⟩
    unfold layered?
    rw [each]
    exact withEnvironment_eq_ok_iff.1 overrides var
  · rintro ⟨fields, readable, layers, valid⟩
    obtain ⟨s, read, each⟩ := readable.exists_base
    refine bind_eq_ok_iff.2 ⟨s, read, bind_eq_ok_iff.2 ⟨c, ?_, ?_⟩⟩
    · refine withEnvironment_eq_ok_iff.2 fun var => ?_
      rw [← each]
      exact layers var
    · exact bind_eq_ok_iff.2 ⟨(), validate_eq_ok_iff.2 valid, rfl⟩

theorem layered?_eq {fields : Fields} (given : given? fields var (get {} var) = some (s.get var)) :
    layered? fields env var = overridden? env var (some (s.get var)) := by
  unfold layered?
  rw [given]

/-- A variable is at fault if there is no value that the setting could have. -/
theorem fault?_eq_none_iff (below : var.Value) :
    fault? env var = none ↔ (overridden? env var (some below)).isSome = true := by
  unfold overridden? fault?
  cases (env var).value? with
  | none => simp
  | some text =>
      dsimp only
      cases var.reading (Text.trim text.toList) <;> simp [Except.toOption]

theorem value?_eq_some_iff {text : String} :
    (env var).value? = some text ↔ env var = .text text := by
  cases env var <;> simp [Assignment.value?]

theorem fault?_eq_some_iff : fault? env var = some fault ↔ ∃ text fault', env var = .text text ∧
    var.reading (Text.trim text.toList) = .error fault' ∧ var.blame text fault' = fault := by
  simp only [← value?_eq_some_iff]
  unfold fault?
  cases (env var).value? with
  | none => simp
  | some text =>
      simp only [Option.some.injEq, exists_and_left, exists_eq_left']
      cases var.reading (Text.trim text.toList) <;> simp

theorem fault?_eq_none_iff_wellSet : fault? env var = none ↔ WellSet env var := by
  rw [Option.eq_none_iff_forall_ne_some]
  constructor
  · intro none value set
    cases read : var.reading (Text.trim value.toList) with
    | error fault => exact absurd (fault?_eq_some_iff.2 ⟨value, fault, set, read, rfl⟩) (none _)
    | ok v => exact ⟨v, rfl⟩
  · intro wellSet fault bad
    obtain ⟨value, fault', set, unread, -⟩ := fault?_eq_some_iff.1 bad
    obtain ⟨v, read⟩ := wellSet value set
    cases unread.symm.trans read

theorem isSome_overridden?_iff (below : var.Value) :
    (overridden? env var (some below)).isSome = true ↔ WellSet env var :=
  (fault?_eq_none_iff below).symm.trans fault?_eq_none_iff_wellSet

theorem blame_of_calm {text : String} {fault' : ValueFault}
    (calm : ∀ text, env var = .text text → ¬ var.Stops (Text.trim text.toList))
    (set : env var = .text text) (bad : var.reading (Text.trim text.toList) = .error fault') :
    var.blame text fault' = .badVariable var text fault' := by
  unfold Variable.blame
  split
  · exact absurd bad (calm text set)
  · rfl

theorem base_eq_error_iff : base file = .error fault ↔
    (file = some .unreadable ∧ .unreadable = fault) ∨
      ∃ content, file = some (.text content) ∧
        ((Toml.parse? content = none ∧ .malformed = fault) ∨
          ∃ fields, Toml.parse? content = some fields ∧
            fields.foldlM withEntry {} = .error fault) := by
  cases file with
  | none => simp [base]
  | some content =>
      cases content with
      | unreadable => simp [base, ofFile]
      | text content =>
          unfold base ofFile ofToml
          simp only [Option.some.injEq, FileContent.text.injEq, exists_eq_left']
          cases Toml.parse? content <;> simp

theorem base_eq_error_iff_of_calm (calm : Calm file env) : base file = .error fault ↔
    (file = some .unreadable ∧ .unreadable = fault) ∨
      ∃ content, file = some (.text content) ∧ (¬ ∃ fields, Readable file fields) ∧
        .malformed = fault := by
  have unreadable_of_error {fault' : SettingsFault} (bad : base file = .error fault') :
      ¬ ∃ fields, Readable file fields := by
    rintro ⟨fields, readable⟩
    obtain ⟨s, read, -⟩ := readable.exists_base
    cases bad.symm.trans read
  -- The value at fault is what the document has for the setting, and no text that stops anything.
  have malformed_of_error {content : String} {fault : SettingsFault}
      (there : file = some (.text content)) (bad : base file = .error fault) :
      .malformed = fault := by
    subst there
    obtain ⟨⟨⟩, -⟩ | ⟨_, ⟨⟩, ⟨-, same⟩ | ⟨fields, document, bad⟩⟩ := base_eq_error_iff.1 bad
    · exact same
    · obtain ⟨before, after, var, value, split, -, -, blamed⟩ := foldlM_withEntry_eq_error_iff.1 bad
      have found := (Toml.distinct_of_parse? document).lookup_eq split
      rw [← blamed, Variable.blameEntry_of_calm]
      rintro text rfl
      exact calm.file fields document var text found
  constructor
  · intro bad
    obtain ⟨none, same⟩ | ⟨content, there, -⟩ := base_eq_error_iff.1 bad
    · exact .inl ⟨none, same⟩
    · exact .inr ⟨content, there, unreadable_of_error bad, malformed_of_error there bad⟩
  · rintro (⟨rfl, rfl⟩ | ⟨content, there, unread, rfl⟩)
    · rfl
    · cases read : base file with
      | ok s =>
          obtain ⟨fields, readable, -⟩ := exists_readable read
          exact absurd ⟨fields, readable⟩ unread
      | error fault => rw [malformed_of_error there read]

/-- The environment is refused for the first variable whose value is none of the setting. -/
theorem withEnvironment_eq_error_iff_exists : s.withEnvironment env = .error fault ↔
    ∃ (before after : List Variable) (var : Variable) (text : String) (fault' : ValueFault),
      Variable.all = before ++ var :: after ∧
      (∀ earlier ∈ before, (overridden? env earlier (some (s.get earlier))).isSome = true) ∧
      env var = .text text ∧ var.reading (Text.trim text.toList) = .error fault' ∧
      var.blame text fault' = fault := by
  rw [withEnvironment_eq_error_iff, List.findSome?_eq_some_iff]
  simp only [fault?_eq_some_iff, fault?_eq_none_iff (s.get _)]
  constructor
  · rintro ⟨before, var, after, split, ⟨text, fault', bad⟩, good⟩
    exact ⟨before, after, var, text, fault', split, good, bad⟩
  · rintro ⟨before, after, var, text, fault', split, good, bad⟩
    exact ⟨before, var, after, split, ⟨text, fault', bad⟩, good⟩

theorem load_eq_error_iff : load file env = .error fault ↔ base file = .error fault ∨
    ∃ s, base file = .ok s ∧ (s.withEnvironment env = .error fault ∨
      ∃ c, s.withEnvironment env = .ok c ∧ c.validate = .error fault) := by
  have validated (c : Settings) : (c.validate >>= fun _ => Except.ok c) = .error fault ↔
      c.validate = .error fault := by
    cases c.validate <;> simp [bind, Except.bind]
  rw [load_eq_bind, bind_eq_error_iff]
  simp only [bind_eq_error_iff, validated]

/-- What is wrong with layers of which each is readable. -/
theorem fails_of_load_eq_error (calm : Calm file env) (failed : load file env = .error fault) :
    Fails file env fault := by
  obtain bad | ⟨s, read, bad⟩ := load_eq_error_iff.1 failed
  · obtain ⟨none, rfl⟩ | ⟨content, there, unread, rfl⟩ := (base_eq_error_iff_of_calm calm).1 bad
    · exact .unreadable none
    · exact .malformed there unread
  · obtain ⟨fields, readable, each⟩ := exists_readable read
    obtain bad | ⟨c, overrides, bad⟩ := bad
    · obtain ⟨before, after, var, text, fault', split, good, set, unread, rfl⟩ :=
        withEnvironment_eq_error_iff_exists.1 bad
      rw [blame_of_calm (calm.environment var) set unread]
      refine .badVariable readable split (fun earlier member => ?_) set unread
      rw [layered?_eq (each earlier)]
      exact good earlier member
    · have layers (var : Variable) : layered? fields env var = some (c.get var) :=
        (layered?_eq (each var)).trans (withEnvironment_eq_ok_iff.1 overrides var)
      have all (var : Variable) : (layered? fields env var).isSome = true := by
        rw [layers]
        rfl
      obtain ⟨wait, rfl⟩ | ⟨wait, stop, rfl⟩ := validate_eq_error_iff.1 bad
      · exact .zeroWaitTimeout readable all ((layers _).trans (congrArg some wait))
      · refine .zeroStopTimeout readable all (fun zero => wait ?_)
          ((layers _).trans (congrArg some stop))
        exact Option.some.inj ((layers .waitTimeout).symm.trans zero)

theorem load_eq_error_of_fails (calm : Calm file env) (fails : Fails file env fault) :
    load file env = .error fault := by
  -- Layers that are readable throughout come to settings that are refused only when validated.
  have refused {fields : Fields} {fault : SettingsFault} (readable : Readable file fields)
      (all : ∀ var, (layered? fields env var).isSome = true)
      (invalid : ∀ c : Settings, (∀ var, layered? fields env var = some (c.get var)) →
        c.validate = .error fault) : load file env = .error fault := by
    obtain ⟨s, read, each⟩ := readable.exists_base
    obtain ⟨c, layers⟩ := exists_settings all
    have overrides : s.withEnvironment env = .ok c := by
      refine withEnvironment_eq_ok_iff.2 fun var => ?_
      rw [← layered?_eq (each var)]
      exact layers var
    exact load_eq_error_iff.2 (.inr ⟨s, read, .inr ⟨c, overrides, invalid c layers⟩⟩)
  cases fails with
  | unreadable none =>
      exact load_eq_error_iff.2 (.inl ((base_eq_error_iff_of_calm calm).2 (.inl ⟨none, rfl⟩)))
  | malformed there unread =>
      exact load_eq_error_iff.2 (.inl ((base_eq_error_iff_of_calm calm).2
        (.inr ⟨_, there, unread, rfl⟩)))
  | badVariable readable split good set unread =>
      obtain ⟨s, read, each⟩ := readable.exists_base
      refine load_eq_error_iff.2 (.inr ⟨s, read, .inl (withEnvironment_eq_error_iff_exists.2
        ⟨_, _, _, _, _, split, fun earlier member => ?_, set, unread,
          blame_of_calm (calm.environment _) set unread⟩)⟩)
      rw [← layered?_eq (each earlier)]
      exact good earlier member
  | zeroWaitTimeout readable all zero =>
      refine refused readable all fun c layers => validate_eq_error_iff.2 (.inl ⟨?_, rfl⟩)
      exact Option.some.inj ((layers .waitTimeout).symm.trans zero)
  | zeroStopTimeout readable all wait zero =>
      refine refused readable all fun c layers =>
        validate_eq_error_iff.2 (.inr ⟨fun none => wait ?_, ?_, rfl⟩)
      · exact (layers .waitTimeout).trans (congrArg some none)
      · exact Option.some.inj ((layers .stopTimeout).symm.trans zero)

/-- Settings are had if the file is a document of settings, the variables have values of theirs and
neither of the two timeouts comes out as zero; each setting is then its variable's value, else the
document's, else the default. If not, the fault is the first there is, given that no text stops the
whole program. -/
theorem load_takes_layers_in_order (file : Option FileContent) (env : Environment) :
    (∀ c, load file env = .ok c ↔ ∃ fields, Readable file fields ∧
      (∀ var, layered? fields env var = some (c.get var)) ∧
        c.waitTimeout ≠ .zero ∧ c.stopTimeout ≠ .zero) ∧
      (Calm file env → ∀ fault, load file env = .error fault ↔ Fails file env fault) :=
  ⟨fun _ => load_eq_ok_iff,
    fun calm _ => ⟨fails_of_load_eq_error calm, load_eq_error_of_fails calm⟩⟩

/-- A document with no time to wait, and a variable that gives some. -/
def zeroFile : Option FileContent :=
  some (.text "wait_timeout = \"0s\"\n")

/-- A time to wait, among blanks, and a mode that there is not. -/
def badModeEnvironment : Environment := fun var =>
  if var = .waitTimeout then .text " 3s "
  else if var = .publishMode then .text "both"
  else .unset

theorem entries?_zeroFile : entries? zeroFile = some [("wait_timeout", .text "0s")] :=
  parse?_textLine (by decide) (.of_all (by decide) (by decide)) (List.all_eq_true.1 (by decide))

theorem readable_zeroFile : Readable zeroFile [("wait_timeout", .text "0s")] := by
  refine ⟨entries?_zeroFile, fun var => ?_⟩
  cases var <;> rfl

theorem calm_zeroFile : Calm zeroFile badModeEnvironment := by
  have stops_iff {text : List Char} : Variable.waitTimeout.Stops text ↔
      Duration.readHuman text = .error .carryOverflow :=
    Variable.readingOfDuration_eq_error_iff
  constructor
  · intro fields entries var text found
    cases entries?_zeroFile.symm.trans entries
    cases var with
    | waitTimeout =>
        cases found
        rw [stops_iff]
        decide
    | _ => cases found
  · intro var text found
    cases var with
    | waitTimeout =>
        cases found
        rw [stops_iff]
        decide
    | publishMode => exact Variable.not_stops_publishMode _
    | _ => cases found

/-- The mode is reported, for the time to wait is that of the variable. -/
theorem bad_mode_is_reported_after_good_timeout : Calm zeroFile badModeEnvironment ∧
    load zeroFile badModeEnvironment = .error (.badVariable .publishMode "both" .publishMode) := by
  refine ⟨calm_zeroFile, ((load_takes_layers_in_order zeroFile badModeEnvironment).2
    calm_zeroFile _).2 ?_⟩
  refine .badVariable readable_zeroFile
    (show Variable.all =
      [.waitTimeout, .stopTimeout, .startupSettle] ++ .publishMode :: [.failOnHandlerError] from rfl)
    ?_ rfl rfl
  decide +kernel

end Settings

end DeliveryBench
