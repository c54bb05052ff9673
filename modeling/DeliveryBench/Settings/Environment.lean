import DeliveryBench.Settings.TomlForm

/-!
Settings in layers: the defaults or a file, then the environment, then validation.

A variable of the environment replaces the setting of its name. Its value may have blanks around
it. Variables are looked at in a fixed order, so of two bad values the first one is reported; only
the settings that come out in the end are validated.
-/

namespace DeliveryBench

/-- What the environment has for a variable. -/
inductive Assignment where
  | unset
  /-- A value that is no text; it is ignored. -/
  | undecodable
  | text (value : String)
deriving DecidableEq, Repr

/-- The value that a variable has, if it has one. -/
def Assignment.value? : Assignment → Option String
  | .text value => some value
  | _ => none

/-- The value that bytes stand for. -/
def Assignment.ofBytes (bytes : ByteArray) : Assignment :=
  match String.fromUTF8? bytes with
  | some value => .text value
  | none => .undecodable

/-- The variables. -/
abbrev Environment := Variable → Assignment

/-- What reading a file gave. -/
inductive FileContent where
  | unreadable
  | text (content : String)
deriving DecidableEq, Repr

/-- The content that bytes stand for. -/
def FileContent.ofBytes (bytes : ByteArray) : FileContent :=
  match String.fromUTF8? bytes with
  | some content => .text content
  | none => .unreadable

namespace Settings

/-! ## The environment -/

/-- Reads a duration from the value of a variable. -/
def durationValue (var : Variable) (value : String) : Except SettingsFault Duration :=
  match Duration.readHuman (Text.trim value.toList) with
  | .ok d => .ok d
  | .error .carryOverflow => .error (.crashed Duration.ReadFault.carryOverflow.message)
  | .error fault => .error (.badVariable var value (.duration fault))

/-- Reads a publish mode from the value of a variable. -/
def publishModeValue (var : Variable) (value : String) : Except SettingsFault PublishMode :=
  match PublishMode.ofName? (String.ofList (Text.trim value.toList)) with
  | some mode => .ok mode
  | none => .error (.badVariable var value .publishMode)

/-- Reads a setting that is on or off from the value of a variable. -/
def flagValue (var : Variable) (value : String) : Except SettingsFault Bool :=
  let trimmed := String.ofList (Text.trim value.toList)
  if trimmed = "true" then .ok true
  else if trimmed = "false" then .ok false
  else .error (.badVariable var value .flag)

/-- A setting as the environment has it, or as it was. -/
def overridden {α : Type} (env : Environment) (var : Variable)
    (read : Variable → String → Except SettingsFault α) (current : α) : Except SettingsFault α :=
  match (env var).value? with
  | none => .ok current
  | some value => read var value

/-- The settings with the environment's values in place of their own. -/
def withEnvironment (s : Settings) (env : Environment) : Except SettingsFault Settings := do
  let waitTimeout ← overridden env .waitTimeout durationValue s.waitTimeout
  let stopTimeout ← overridden env .stopTimeout durationValue s.stopTimeout
  let startupSettle ← overridden env .startupSettle durationValue s.startupSettle
  let publishMode ← overridden env .publishMode publishModeValue s.publishMode
  let failOnHandlerError ← overridden env .failOnHandlerError flagValue s.failOnHandlerError
  pure { waitTimeout, stopTimeout, startupSettle, publishMode, failOnHandlerError }

/-! ## Layers -/

/-- Reads settings from a file. -/
def ofFile : FileContent → Except SettingsFault Settings
  | .unreadable => .error .unreadable
  | .text content => ofToml content

/-- The settings of a run: the file's or the defaults, overridden and validated. -/
def load (file : Option FileContent) (env : Environment) : Except SettingsFault Settings := do
  let base ← match file with
    | none => .ok {}
    | some content => ofFile content
  let layered ← base.withEnvironment env
  layered.validate
  pure layered

end Settings

end DeliveryBench
