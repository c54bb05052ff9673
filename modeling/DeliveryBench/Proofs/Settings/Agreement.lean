import DeliveryBench.Proofs.Duration.Blanks
import DeliveryBench.Proofs.Settings.Layers

/-!
# A text means the same in a document and in a variable

A document has its texts as they stand, a variable has them without the blanks around them. A text
that has a meaning in a document does not lose it with its blanks
(`Variable.reading_trim_of_meaning?`): a duration is read alike, and the name of a mode has no blanks
around it.
-/

namespace DeliveryBench

namespace Variable

theorem readingOfDuration_trim {text : String} {d : Duration}
    (means : meaningOfDuration? (.text text) = some d) :
    readingOfDuration (Text.trim text.toList) = .ok d := by
  unfold meaningOfDuration? at means
  dsimp only at means
  unfold readingOfDuration
  cases read : Duration.readHuman text.toList with
  | error fault =>
      rw [read] at means
      cases means
  | ok d' =>
      rw [read] at means
      cases means
      rw [Duration.readHuman_trim read]

theorem ofName?_trim {text : String} {mode : PublishMode}
    (named : PublishMode.ofName? text = some mode) :
    PublishMode.ofName? (String.ofList (Text.trim text.toList)) = some mode := by
  unfold PublishMode.ofName? at named
  split at named
  · rename_i same
    cases named
    subst same
    rfl
  · split at named
    · rename_i same
      cases named
      subst same
      rfl
    · cases named

/-- What a text means in a document, it means in a variable. -/
theorem reading_trim_of_meaning? {var : Variable} {text : String} {v : var.Value}
    (means : var.meaning? (.text text) = some v) :
    var.reading (Text.trim text.toList) = .ok v := by
  cases var with
  | waitTimeout | stopTimeout | startupSettle => exact readingOfDuration_trim means
  | publishMode =>
      unfold reading
      dsimp only
      rw [ofName?_trim means]
  | failOnHandlerError => cases means

end Variable

namespace Settings

variable {s : Settings} {fields : Toml.Fields} {var : Variable} {document text : String}
  {env : Environment}

theorem ofToml_eq_ok_iff : ofToml document = .ok s ↔ ∃ fields, Toml.parse? document = some fields ∧
    ∀ var, given? fields var (get {} var) = some (s.get var) :=
  show base (some (.text document)) = .ok s ↔ _ from base_eq_ok_iff

/-- A text that a document may have for a setting, the variable of the setting may have too, and the
setting is then the same, whatever the settings below and the other variables, provided that these
are well set. -/
theorem variable_agrees_with_document (accepted : ofToml document = .ok s)
    (parsed : Toml.parse? document = some fields)
    (there : fields.lookup var.key = some (.text text)) (below : Settings)
    (set : env var = .text text)
    (others : ∀ other ≠ var, WellSet env other) :
    ∃ c, below.withEnvironment env = .ok c ∧ c.get var = s.get var := by
  have means : var.meaning? (.text text) = some (s.get var) := by
    obtain ⟨fields', parsed', each⟩ := ofToml_eq_ok_iff.1 accepted
    cases parsed.symm.trans parsed'
    rw [← each var]
    unfold given?
    rw [there]
  have here : overridden? env var (some (below.get var)) = some (s.get var) := by
    unfold overridden?
    rw [set]
    show (var.reading (Text.trim text.toList)).toOption = _
    rw [Variable.reading_trim_of_meaning? means]
    rfl
  have all (other : Variable) : (overridden? env other (some (below.get other))).isSome = true := by
    by_cases same : other = var
    · subst same
      rw [here]
      rfl
    · exact (isSome_overridden?_iff _).2 (others other same)
  obtain ⟨c, each⟩ := exists_settings all
  exact ⟨c, withEnvironment_eq_ok_iff.2 each, Option.some.inj ((each var).symm.trans here)⟩

/-- A time to wait in minutes and seconds, with blanks around it. -/
theorem blanks_around_timeout_do_not_matter :
    ofToml "wait_timeout = \" 1m 30s \"\n" = .ok { waitTimeout := .ofSecs 90 } ∧
      ∃ c, withEnvironment {} (fun var => if var = .waitTimeout then .text " 1m 30s " else .unset) =
        .ok c ∧ c.waitTimeout = .ofSecs 90 := by
  have parsed : Toml.parse? "wait_timeout = \" 1m 30s \"\n" =
      some [("wait_timeout", .text " 1m 30s ")] :=
    parse?_textLine (by decide) (.of_all (by decide) (by decide)) (List.all_eq_true.1 (by decide))
  have accepted : ofToml "wait_timeout = \" 1m 30s \"\n" = .ok { waitTimeout := .ofSecs 90 } := by
    unfold ofToml
    rw [parsed]
    decide
  have there : List.lookup Variable.waitTimeout.key [("wait_timeout", Toml.Node.text " 1m 30s ")] =
      some (.text " 1m 30s ") :=
    rfl
  refine ⟨accepted, variable_agrees_with_document accepted parsed there {} (if_pos rfl)
    fun other different value set => ?_⟩
  rw [if_neg different] at set
  cases set

end Settings

end DeliveryBench
