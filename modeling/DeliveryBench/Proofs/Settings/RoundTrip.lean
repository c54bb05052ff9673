import DeliveryBench.Proofs.Duration.HumanText
import DeliveryBench.Proofs.Toml.Lines
import DeliveryBench.Settings.TomlForm

/-!
# Settings that are written are read back

`Settings.toToml` writes a document of five plain lines (`toToml_eq`), which is read as the five
values that it gives (`Toml.parse?_document`). Each of them is taken over as the value that was
written, so that no default is left (`settings_survive_writing`).
-/

namespace DeliveryBench

theorem PublishMode.ofName?_name (mode : PublishMode) : ofName? mode.name = some mode := by
  cases mode <;> rfl

namespace Settings

open Toml (Line Node isPlain)

/-! ## The document -/

/-- What can be written for people can be put in quotes as it is. -/
theorem isPlain_of_mem_humanText {d : Duration} {c : Char} (member : c ∈ d.humanText.toList) :
    isPlain c = true := by
  have visible (low : ' ' ≤ c) (noDelete : c ≠ '\x7f') (noQuote : c ≠ '"') (noEscape : c ≠ '\\') :
      isPlain c = true := by
    unfold isPlain Toml.isPrintable
    simp [low, noDelete, noQuote, noEscape]
  rcases Duration.cases_of_mem_humanText member with rfl | digit | letter
  · rfl
  · have low : ' ' ≤ c := by
      unfold Char.isDigit at digit
      rw [Bool.and_eq_true, decide_eq_true_iff, decide_eq_true_iff] at digit
      exact UInt32.le_trans (by decide) digit.1
    refine visible low ?_ ?_ ?_ <;> (rintro rfl; cases digit)
  · have low : ' ' ≤ c := by
      unfold Duration.isUnitLetter Char.isAlpha Char.isUpper Char.isLower at letter
      simp only [Bool.or_eq_true, Bool.and_eq_true, decide_eq_true_iff, beq_iff_eq] at letter
      rcases letter with (⟨upper, -⟩ | ⟨lower, -⟩) | rfl
      · exact UInt32.le_trans (by decide) upper
      · exact UInt32.le_trans (by decide) lower
      · decide
    refine visible low ?_ ?_ ?_ <;> (rintro rfl; cases letter)

/-- A line with a text. -/
def textLine (name text : String) : Line :=
  ⟨name, .text text, (tomlText text).toList⟩

theorem legible_textLine {name text : String} (bare : Toml.IsBare name.toList)
    (plain : ∀ c ∈ text.toList, isPlain c = true) : (textLine name text).Legible := by
  have quoted : (tomlText text).toList = '"' :: (text.toList ++ ['"']) := by
    unfold tomlText
    rw [String.toList_append, String.toList_append]
    rfl
  exact ⟨bare, show Toml.Written (.text text) (tomlText text).toList from quoted ▸ .text plain⟩

/-- A document of one such line has one field. -/
theorem parse?_textLine {document name text : String}
    (written : document.toList = (textLine name text).chars) (bare : Toml.IsBare name.toList)
    (plain : ∀ c ∈ text.toList, isPlain c = true) :
    Toml.parse? document = some [(name, .text text)] := by
  have legible : ∀ l ∈ [textLine name text], l.Legible :=
    List.forall_mem_singleton.2 (legible_textLine bare plain)
  have parsed := Toml.parse?_document legible (List.nodup_cons.2 ⟨List.not_mem_nil, List.nodup_nil⟩)
  rwa [List.flatMap_singleton, ← written, String.ofList_toList] at parsed

theorem legible_durationLine {name : String} (bare : Toml.IsBare name.toList) (d : Duration) :
    (textLine name d.humanText).Legible :=
  legible_textLine bare fun _ => isPlain_of_mem_humanText

/-- A line that says whether something is on. -/
def flagLine (name : String) (on : Bool) : Line :=
  ⟨name, .boolean on, (if on then "true" else "false").toList⟩

theorem legible_flagLine {name : String} (bare : Toml.IsBare name.toList) (on : Bool) :
    (flagLine name on).Legible := by
  cases on with
  | false => exact ⟨bare, .no⟩
  | true => exact ⟨bare, .yes⟩

/-- The lines in which settings are written. -/
def lines (s : Settings) : List Line :=
  [textLine "wait_timeout" s.waitTimeout.humanText,
    textLine "stop_timeout" s.stopTimeout.humanText,
    textLine "startup_settle" s.startupSettle.humanText,
    textLine "publish_mode" s.publishMode.name,
    flagLine "fail_on_handler_error" s.failOnHandlerError]

theorem toToml_eq (s : Settings) : s.toToml = String.ofList (s.lines.flatMap Line.chars) := by
  rw [← String.toList_inj, String.toList_ofList]
  unfold toToml tomlLine
  simp [lines, textLine, flagLine, Line.chars]

theorem legible_lines (s : Settings) : ∀ l ∈ s.lines, l.Legible := by
  unfold lines
  simp only [List.forall_mem_cons]
  have plain (mode : PublishMode) : ∀ c ∈ mode.name.toList, isPlain c = true := by
    cases mode <;> exact List.all_eq_true.1 (by decide)
  exact ⟨legible_durationLine (.of_all (by decide) (by decide)) _,
    legible_durationLine (.of_all (by decide) (by decide)) _,
    legible_durationLine (.of_all (by decide) (by decide)) _,
    legible_textLine (.of_all (by decide) (by decide)) (plain _),
    legible_flagLine (.of_all (by decide) (by decide)) _, nofun⟩

theorem nodup_lines (s : Settings) : (s.lines.map Line.name).Nodup := by
  have names : s.lines.map Line.name = ["wait_timeout", "stop_timeout", "startup_settle",
    "publish_mode", "fail_on_handler_error"] := rfl
  rw [names]
  decide

/-! ## The values -/

theorem durationOf_humanText (take : Duration → Settings) (d : Duration) :
    (durationOf (.text d.humanText)).map take = .ok (take d) := by
  unfold durationOf
  dsimp only
  rw [Duration.readHuman_humanText]
  rfl

theorem publishModeOf_name (take : PublishMode → Settings) (mode : PublishMode) :
    (publishModeOf (.text mode.name)).map take = .ok (take mode) := by
  unfold publishModeOf
  dsimp only
  rw [PublishMode.ofName?_name]
  rfl

/-- Each entry sets what it names, and whatever was there before is lost. -/
theorem foldlM_fields (s : Settings) : (s.lines.map Line.field).foldlM withEntry {} = .ok s := by
  have wait (t : Settings) : withEntry t (textLine "wait_timeout" s.waitTimeout.humanText).field =
      .ok { t with waitTimeout := s.waitTimeout } :=
    durationOf_humanText (fun d => { t with waitTimeout := d }) _
  have stop (t : Settings) : withEntry t (textLine "stop_timeout" s.stopTimeout.humanText).field =
      .ok { t with stopTimeout := s.stopTimeout } :=
    durationOf_humanText (fun d => { t with stopTimeout := d }) _
  have settle (t : Settings) :
      withEntry t (textLine "startup_settle" s.startupSettle.humanText).field =
        .ok { t with startupSettle := s.startupSettle } :=
    durationOf_humanText (fun d => { t with startupSettle := d }) _
  have mode (t : Settings) : withEntry t (textLine "publish_mode" s.publishMode.name).field =
      .ok { t with publishMode := s.publishMode } :=
    publishModeOf_name (fun m => { t with publishMode := m }) _
  have flag (t : Settings) :
      withEntry t (flagLine "fail_on_handler_error" s.failOnHandlerError).field =
        .ok { t with failOnHandlerError := s.failOnHandlerError } :=
    rfl
  unfold lines
  simp only [List.map_cons, List.map_nil, List.foldlM_cons, wait, stop, settle, mode, flag]
  rfl

/-- **Settings that are written are read back**, whatever their values. In particular, so is every
duration, exactly, from nothing to the longest one. -/
theorem settings_survive_writing :
    (∀ s : Settings, ofToml s.toToml = .ok s) ∧
      ∀ d : Duration, Duration.readHuman d.humanText.toList = .ok d := by
  refine ⟨fun s => ?_, Duration.readHuman_humanText⟩
  unfold ofToml
  rw [toToml_eq, Toml.parse?_document s.legible_lines s.nodup_lines]
  exact s.foldlM_fields

end Settings

end DeliveryBench
