import DeliveryBench.Json.Record
import DeliveryBench.Message

/-!
Messages as JSON. In an object the key may be missing; an array must have all three fields.
-/

namespace DeliveryBench

open Json (Reading ReadFault)

namespace Message

/-- The fields of a message, in order. -/
def fieldNames : List String := ["id", "payload", "key"]

/-- Reads one field. -/
def readField (name : String) (m : Message) (cs : List Char) : Reading Message :=
  if name = "id" then
    Reading.ofOption do
      let (text, rest) ← Json.readText? cs
      let id ← MessageId.ofText? text
      pure ({ m with id }, rest)
  else if name = "payload" then
    Reading.ofOption ((Json.readText? cs).map fun read => ({ m with payload := read.1 }, read.2))
  else
    Reading.ofOption
      ((Json.readOptionalText? cs).map fun read => ({ m with key := read.1 }, read.2))

/-- Whether a record has what a message needs. -/
def isComplete (record : Json.Record Message) : Bool :=
  match record.form with
  | .object => record.seen.contains "id" && record.seen.contains "payload"
  | .array => record.seen.length == fieldNames.length

/-- Accepts a record that has what a message needs. -/
def ofRecord (read : Json.Record Message × List Char) : Reading Message :=
  if isComplete read.1 then .ok (read.1.value, read.2) else .error .malformed

/-- Reads a message. -/
def ofJson (text : String) : Except ReadFault Message :=
  let read := Json.readRecord fieldNames readField ⟨.ofNat 0, "", none⟩ text.toList
  Json.whole (read.bind ofRecord)

end Message

end DeliveryBench
