import DeliveryBench.Json.Record
import DeliveryBench.Settings

/-!
Settings as JSON. What is missing keeps its default.
-/

namespace DeliveryBench.Settings

open Json (Reading ReadFault)

/-- The fields of the settings, in order. -/
def fieldNames : List String :=
  ["wait_timeout", "stop_timeout", "startup_settle", "publish_mode", "fail_on_handler_error"]

/-- Reads a duration written for people. -/
def readDuration (cs : List Char) : Reading Duration :=
  match Json.readText? cs with
  | none => .error .malformed
  | some (text, rest) =>
    match Duration.readHuman text.toList with
    | .ok d => .ok (d, rest)
    | .error .carryOverflow => .error (.crashed Duration.ReadFault.carryOverflow.message)
    | .error _ => .error .malformed

/-- Reads one field. -/
def readField (name : String) (s : Settings) (cs : List Char) : Reading Settings :=
  if name = "wait_timeout" then
    (readDuration cs).map fun read => ({ s with waitTimeout := read.1 }, read.2)
  else if name = "stop_timeout" then
    (readDuration cs).map fun read => ({ s with stopTimeout := read.1 }, read.2)
  else if name = "startup_settle" then
    (readDuration cs).map fun read => ({ s with startupSettle := read.1 }, read.2)
  else if name = "publish_mode" then
    (Reading.ofOption (Json.readVariant? PublishMode.ofName? cs)).map fun read =>
      ({ s with publishMode := read.1 }, read.2)
  else
    (Reading.ofOption (Json.readBool? cs)).map fun read =>
      ({ s with failOnHandlerError := read.1 }, read.2)

/-- Reads settings. -/
def ofJson (text : String) : Except ReadFault Settings :=
  let read := Json.readRecord fieldNames readField {} text.toList
  Json.whole (read.map fun read => (read.1.value, read.2))

/-- The settings as texts by name, and the flag. -/
def jsonTexts (s : Settings) : List (String × String) :=
  [("wait_timeout", s.waitTimeout.humanText), ("stop_timeout", s.stopTimeout.humanText),
    ("startup_settle", s.startupSettle.humanText), ("publish_mode", s.publishMode.name)]

end DeliveryBench.Settings
