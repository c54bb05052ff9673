import DeliveryBench.Proofs.Failing
import DeliveryBench.Proofs.Toml.Names
import DeliveryBench.Settings.Layers

/-!
# A document of settings

A document is taken over one entry after the other. No two entries concern the same setting, because
no name stands twice in a document, so each setting is what its own entry makes of it
(`foldlM_withEntry_eq_ok_iff`). Whether an entry can be taken over does not depend on the entries
before it, so a document is refused for the first one that cannot
(`foldlM_withEntry_eq_error_iff`).
-/

namespace DeliveryBench

open Toml (Node Fields Distinct)

namespace Settings

/-! ## One setting at a time -/

/-- The settings with one of them changed. -/
def set (s : Settings) : (var : Variable) → var.Value → Settings
  | .waitTimeout, d => { s with waitTimeout := d }
  | .stopTimeout, d => { s with stopTimeout := d }
  | .startupSettle, d => { s with startupSettle := d }
  | .publishMode, mode => { s with publishMode := mode }
  | .failOnHandlerError, b => { s with failOnHandlerError := b }

variable {s s' : Settings} {var other : Variable}

@[simp]
theorem get_set_self (s : Settings) (var : Variable) (v : var.Value) :
    (s.set var v).get var = v := by
  cases var <;> rfl

@[simp]
theorem get_set_of_ne (s : Settings) (different : other ≠ var) (v : var.Value) :
    (s.set var v).get other = s.get other := by
  cases var <;> cases other <;> first | rfl | exact absurd rfl different

theorem eq_of_get (same : ∀ var, s.get var = s'.get var) : s = s' := by
  cases s
  cases s'
  cases same .waitTimeout
  cases same .stopTimeout
  cases same .startupSettle
  cases same .publishMode
  cases same .failOnHandlerError
  rfl

end Settings

theorem Variable.eq_of_key {var other : Variable} (same : var.key = other.key) : var = other := by
  revert same
  cases var <;> cases other <;> decide

/-! ## Reading one value -/

namespace Variable

variable {var : Variable} {value : Node} {v : var.Value} {text : String}

/-- Takes the value of a setting from a document. -/
def readEntry : (var : Variable) → Node → Except SettingsFault var.Value
  | .waitTimeout, value => Settings.durationOf value
  | .stopTimeout, value => Settings.durationOf value
  | .startupSettle, value => Settings.durationOf value
  | .publishMode, value => Settings.publishModeOf value
  | .failOnHandlerError, value => Settings.flagOf value

theorem readingOfDuration_eq_error_iff {text : List Char} {fault : Duration.ReadFault} :
    readingOfDuration text = .error (.duration fault) ↔ Duration.readHuman text = .error fault := by
  unfold readingOfDuration
  cases Duration.readHuman text <;> simp

/-- What becomes of a value in a document that has no meaning for a setting. -/
def blameEntry (var : Variable) : Node → SettingsFault
  | .text s =>
    match var.reading s.toList with
    | .error (.duration .carryOverflow) => .crashed Duration.ReadFault.carryOverflow.message
    | _ => .malformed
  | _ => .malformed

theorem not_stops_publishMode (text : List Char) : ¬ Stops .publishMode text := by
  unfold Stops reading
  dsimp only
  split <;> (intro same; cases same)

theorem not_stops_failOnHandlerError (text : List Char) : ¬ Stops .failOnHandlerError text := by
  unfold Stops reading
  dsimp only
  split
  · intro same
    cases same
  · split <;> (intro same; cases same)

theorem blameEntry_of_stops (stops : var.Stops text.toList) :
    var.blameEntry (.text text) = .crashed Duration.ReadFault.carryOverflow.message := by
  unfold blameEntry
  dsimp only
  rw [stops]

theorem blameEntry_of_calm (calm : ∀ text, value = .text text → ¬ var.Stops text.toList) :
    var.blameEntry value = .malformed := by
  unfold blameEntry
  split
  · rename_i s
    split
    · rename_i stops
      exact absurd stops (calm s rfl)
    · rfl
  · rfl

theorem publishModeOf_eq (value : Node) : Settings.publishModeOf value =
    (meaningOfMode? value).elim (.error .malformed) .ok := by
  unfold Settings.publishModeOf meaningOfMode?
  cases value with
  | text s =>
      dsimp only
      cases PublishMode.ofName? s <;> rfl
  | table style fields =>
      dsimp only
      cases Settings.modeOfFields fields <;> rfl
  | _ => rfl

theorem readEntry_eq (var : Variable) (value : Node) :
    var.readEntry value = (var.meaning? value).elim (.error (var.blameEntry value)) .ok := by
  cases var with
  | waitTimeout | stopTimeout | startupSettle =>
      unfold readEntry Settings.durationOf meaning? meaningOfDuration? blameEntry reading
        readingOfDuration
      cases value with
      | text s =>
          dsimp only
          cases Duration.readHuman s.toList with
          | ok d => rfl
          | error fault => cases fault <;> rfl
      | _ => rfl
  | publishMode =>
      rw [blameEntry_of_calm fun text _ => not_stops_publishMode text.toList]
      exact publishModeOf_eq value
  | failOnHandlerError =>
      rw [blameEntry_of_calm fun text _ => not_stops_failOnHandlerError text.toList]
      cases value <;> rfl

theorem readEntry_eq_ok_iff : var.readEntry value = .ok v ↔ var.meaning? value = some v := by
  rw [readEntry_eq]
  cases var.meaning? value <;> simp

theorem readEntry_eq_error_iff {fault : SettingsFault} : var.readEntry value = .error fault ↔
    var.meaning? value = none ∧ var.blameEntry value = fault := by
  rw [readEntry_eq]
  cases var.meaning? value <;> simp

end Variable

/-! ## A document -/

namespace Settings

theorem withEntry_key (s : Settings) (var : Variable) (value : Node) :
    s.withEntry (var.key, value) = (var.readEntry value).map (s.set var) := by
  cases var <;> rfl

theorem withEntry_other {name : String} (other : ∀ var : Variable, var.key ≠ name) (s : Settings)
    (value : Node) : s.withEntry (name, value) = .ok s := by
  unfold withEntry
  dsimp only
  rw [if_neg (show name ≠ "wait_timeout" from (other .waitTimeout).symm),
    if_neg (show name ≠ "stop_timeout" from (other .stopTimeout).symm),
    if_neg (show name ≠ "startup_settle" from (other .startupSettle).symm),
    if_neg (show name ≠ "publish_mode" from (other .publishMode).symm),
    if_neg (show name ≠ "fail_on_handler_error" from (other .failOnHandlerError).symm)]

variable {s c : Settings} {var : Variable} {fields : Fields}

theorem given?_cons_self (value : Node) (below : var.Value) :
    given? ((var.key, value) :: fields) var below = var.meaning? value := by
  unfold given?
  rw [List.lookup_cons_self]

theorem given?_cons_of_ne {name : String} (other : var.key ≠ name) (value : Node)
    (below : var.Value) : given? ((name, value) :: fields) var below = given? fields var below := by
  unfold given?
  rw [List.lookup_cons, beq_false_of_ne other]

theorem given?_of_absent (absent : var.key ∉ fields.map Prod.fst) (below : var.Value) :
    given? fields var below = some below := by
  have none : fields.lookup var.key = none := by
    rw [List.lookup_eq_none_iff]
    intro field member
    rw [bne_iff_ne]
    rintro same
    exact absent (same ▸ List.mem_map_of_mem member)
  unfold given?
  rw [none]

/-- A document is taken over if its values are values of the settings that they are for, and then
each setting is what the document has for it, or what it was. -/
theorem foldlM_withEntry_eq_ok_iff (distinct : Distinct fields) :
    fields.foldlM withEntry s = .ok c ↔ ∀ var, given? fields var (s.get var) = some (c.get var) := by
  induction fields generalizing s with
  | nil =>
      constructor
      · intro same
        cases same
        exact fun _ => rfl
      · intro same
        exact congrArg Except.ok (eq_of_get fun var => Option.some.inj (same var))
  | cons field rest ih =>
      obtain ⟨name, value⟩ := field
      obtain ⟨new, others⟩ := List.nodup_cons.1 distinct
      rw [List.foldlM_cons]
      by_cases known : ∃ var : Variable, var.key = name
      · obtain ⟨var, rfl⟩ := known
        rw [withEntry_key]
        cases read : var.readEntry value with
        | error fault =>
            have none := (Variable.readEntry_eq_error_iff.1 read).1
            constructor
            · intro same
              cases same
            · intro given
              have here := given var
              rw [given?_cons_self, none] at here
              cases here
        | ok v =>
            have meaning := Variable.readEntry_eq_ok_iff.1 read
            refine (ih others).trans (forall_congr' fun other => ?_)
            by_cases same : other = var
            · rw [same, given?_of_absent new, given?_cons_self, meaning, get_set_self]
            · rw [get_set_of_ne _ same, given?_cons_of_ne fun keys => same (Variable.eq_of_key keys)]
      · rw [withEntry_other fun var same => known ⟨var, same⟩]
        refine (ih others).trans (forall_congr' fun other => ?_)
        rw [given?_cons_of_ne fun same => known ⟨other, same⟩]

/-- What is wrong with an entry of a document, if anything. -/
def entryFault? (entry : String × Node) : Option SettingsFault :=
  match withEntry {} entry with
  | .ok _ => none
  | .error fault => some fault

theorem withEntry_eq_error_iff {entry : String × Node} {fault : SettingsFault} :
    s.withEntry entry = .error fault ↔ ∃ var : Variable, entry.1 = var.key ∧
      var.meaning? entry.2 = none ∧ var.blameEntry entry.2 = fault := by
  obtain ⟨name, value⟩ := entry
  by_cases known : ∃ var : Variable, var.key = name
  · obtain ⟨var, rfl⟩ := known
    have map_error : s.withEntry (var.key, value) = .error fault ↔
        var.readEntry value = .error fault := by
      rw [withEntry_key]
      cases var.readEntry value <;> simp [Except.map]
    rw [map_error, Variable.readEntry_eq_error_iff]
    constructor
    · exact fun bad => ⟨var, rfl, bad⟩
    · rintro ⟨other, same, bad⟩
      cases Variable.eq_of_key same
      exact bad
  · rw [withEntry_other fun var same => known ⟨var, same⟩]
    constructor
    · intro same
      cases same
    · rintro ⟨var, same, -⟩
      exact absurd ⟨var, same.symm⟩ known

theorem entryFault?_eq_some_iff {entry : String × Node} {fault : SettingsFault} :
    entryFault? entry = some fault ↔ withEntry {} entry = .error fault := by
  unfold entryFault?
  cases withEntry {} entry <;> simp

theorem entryFault?_eq_none_iff {entry : String × Node} :
    entryFault? entry = none ↔ Acceptable entry := by
  rw [Option.eq_none_iff_forall_ne_some]
  constructor
  · intro none var key
    rw [Option.isSome_iff_ne_none]
    exact fun bad =>
      none _ (entryFault?_eq_some_iff.2 (withEntry_eq_error_iff.2 ⟨var, key, bad, rfl⟩))
  · intro acceptable fault bad
    obtain ⟨var, key, none, -⟩ := withEntry_eq_error_iff.1 (entryFault?_eq_some_iff.1 bad)
    exact Option.isSome_iff_ne_none.1 (acceptable var key) none

/-- A document is refused for its first entry that has no value of the setting it is for. -/
theorem foldlM_withEntry_eq_error_iff {fault : SettingsFault} :
    fields.foldlM withEntry s = .error fault ↔
      ∃ (before after : Fields) (var : Variable) (value : Node),
        fields = before ++ (var.key, value) :: after ∧ (∀ entry ∈ before, Acceptable entry) ∧
          var.meaning? value = none ∧ var.blameEntry value = fault := by
  have blames (s : Settings) (entry : String × Node) (fault : SettingsFault) :
      s.withEntry entry = .error fault ↔ entryFault? entry = some fault := by
    rw [entryFault?_eq_some_iff, withEntry_eq_error_iff, withEntry_eq_error_iff]
  rw [foldlM_eq_error_iff_findSome? blames, List.findSome?_eq_some_iff]
  simp only [entryFault?_eq_none_iff, entryFault?_eq_some_iff, withEntry_eq_error_iff]
  constructor
  · rintro ⟨before, ⟨name, value⟩, after, split, ⟨var, rfl, bad⟩, acceptable⟩
    exact ⟨before, after, var, value, split, acceptable, bad⟩
  · rintro ⟨before, after, var, value, split, acceptable, bad⟩
    exact ⟨before, (var.key, value), after, split, ⟨var, rfl, bad⟩, acceptable⟩

theorem exists_settings {value? : (var : Variable) → Option var.Value}
    (all : ∀ var, (value? var).isSome = true) :
    ∃ s : Settings, ∀ var, value? var = some (s.get var) := by
  refine ⟨⟨(value? .waitTimeout).get (all _), (value? .stopTimeout).get (all _),
    (value? .startupSettle).get (all _), (value? .publishMode).get (all _),
    (value? .failOnHandlerError).get (all _)⟩, fun var => ?_⟩
  cases var <;> exact (Option.some_get (all _)).symm

end Settings

end DeliveryBench
