import DeliveryBench.Settings
import DeliveryBench.Toml.Document

/-!
Settings as a TOML document: reading and writing.

Durations are written for people and in quotes, modes by name and in quotes. Settings that a
document does not mention keep their defaults, and other entries are ignored. `toToml` writes one
line for every setting.
-/

namespace DeliveryBench.Settings

open Toml (Node)

/-! ## Reading -/

/-- Reads a duration setting. -/
def durationOf (value : Node) : Except SettingsFault Duration :=
  match value with
  | .text s =>
    match Duration.readHuman s.toList with
    | .ok d => .ok d
    | .error .carryOverflow => .error (.crashed Duration.ReadFault.carryOverflow.message)
    | .error _ => .error .malformed
  | _ => .error .malformed

/-- Whether a value says nothing, as the content of a mode must. -/
def isHollow : Node → Bool
  | .array [] | .table _ [] | .tables [] => true
  | _ => false

/-- Reads a mode that is written as a table: its one entry has the mode's name and says nothing. -/
def modeOfFields : Toml.Fields → Option PublishMode
  | [(name, content)] => if isHollow content then PublishMode.ofName? name else none
  | _ => none

/-- Reads a publish mode. -/
def publishModeOf (value : Node) : Except SettingsFault PublishMode :=
  let mode? := match value with
    | .text s => PublishMode.ofName? s
    | .table _ fields => modeOfFields fields
    | _ => none
  match mode? with
  | some mode => .ok mode
  | none => .error .malformed

/-- Reads a setting that is on or off. -/
def flagOf : Node → Except SettingsFault Bool
  | .boolean b => .ok b
  | _ => .error .malformed

/-- Takes over one entry of a document. -/
def withEntry (s : Settings) (entry : String × Node) : Except SettingsFault Settings :=
  let (name, value) := entry
  if name = "wait_timeout" then
    (durationOf value).map fun d => { s with waitTimeout := d }
  else if name = "stop_timeout" then
    (durationOf value).map fun d => { s with stopTimeout := d }
  else if name = "startup_settle" then
    (durationOf value).map fun d => { s with startupSettle := d }
  else if name = "publish_mode" then
    (publishModeOf value).map fun mode => { s with publishMode := mode }
  else if name = "fail_on_handler_error" then
    (flagOf value).map fun b => { s with failOnHandlerError := b }
  else .ok s

/-- Reads settings from a document. -/
def ofToml (text : String) : Except SettingsFault Settings :=
  match Toml.parse? text with
  | none => .error .malformed
  | some fields => fields.foldlM withEntry {}

/-! ## Writing -/

/-- One line of a document. -/
def tomlLine (name value : String) : String :=
  name ++ " = " ++ value ++ "\n"

/-- A text in quotes that needs no escapes. -/
def tomlText (s : String) : String :=
  "\"" ++ s ++ "\""

/-- Writes settings as a document. -/
def toToml (s : Settings) : String :=
  tomlLine "wait_timeout" (tomlText s.waitTimeout.humanText)
    ++ tomlLine "stop_timeout" (tomlText s.stopTimeout.humanText)
    ++ tomlLine "startup_settle" (tomlText s.startupSettle.humanText)
    ++ tomlLine "publish_mode" (tomlText s.publishMode.name)
    ++ tomlLine "fail_on_handler_error" (if s.failOnHandlerError then "true" else "false")

end DeliveryBench.Settings
