import DeliveryBench.Json.Lexical

/-!
Records and named variants in JSON.

A record is an object, or an array of its fields in their order. Fields are read one after the
other as they come, so that a fault in one is met before anything behind it is looked at. An object
may hold members that the record does not know, as often as it likes, but none of its own twice.

A variant is a text, or an object whose only member has the variant's name and the value null.
-/

namespace DeliveryBench.Json

/-- Why a value could not be read. -/
inductive ReadFault where
  | malformed
  /-- Reading stopped the whole program. -/
  | crashed (text : String)
deriving DecidableEq, Repr

/-- What a reader gives: a value and the rest of the text. -/
abbrev Reading (α : Type) := Except ReadFault (α × List Char)

/-- A reader that only knows malformed text. -/
def Reading.ofOption {α : Type} : Option (α × List Char) → Reading α
  | some read => .ok read
  | none => .error .malformed

/-- How a record was written. -/
inductive RecordForm where
  | object
  | array
deriving DecidableEq, Repr

/-- A record that has been read: how it was written, the fields that it had, and what they gave. -/
structure Record (α : Type) where
  form : RecordForm
  seen : List String
  value : α

variable {α : Type}

/-- Reads a field of a record and adds it to what has been read. -/
abbrev FieldReader (α : Type) := String → α → List Char → Reading α

/-- Reads the members of an object up to its brace. -/
def readMembers (fields : List String) (readField : FieldReader α) :
    Nat → List String → α → List Char → Except ReadFault (Record α × List Char)
  | 0, _, _, _ => .error .malformed
  | fuel + 1, seen, value, cs =>
    match readText? cs with
    | none => .error .malformed
    | some (name, rest) =>
      match skipSpaces rest with
      | ':' :: rest => do
        let (seen, value, rest) ←
          if fields.contains name then
            if seen.contains name then .error .malformed
            else (readField name value rest).map fun read => (name :: seen, read.1, read.2)
          else
            match skipValue? rest with
            | none => .error .malformed
            | some rest => .ok (seen, value, rest)
        match skipSpaces rest with
        | '}' :: rest => .ok (⟨.object, seen, value⟩, rest)
        | ',' :: rest => readMembers fields readField fuel seen value rest
        | _ => .error .malformed
      | _ => .error .malformed

/-- Reads the items of an array as fields, up to its bracket. -/
def readItems (readField : FieldReader α) :
    List String → List String → α → List Char → Except ReadFault (Record α × List Char)
  | [], _, _, _ => .error .malformed
  | name :: names, seen, value, cs => do
    let (value, rest) ← readField name value cs
    match skipSpaces rest with
    | ']' :: rest => .ok (⟨.array, name :: seen, value⟩, rest)
    | ',' :: rest => readItems readField names (name :: seen) value rest
    | _ => .error .malformed

/-- Reads a record with these fields, after blanks. -/
def readRecord (fields : List String) (readField : FieldReader α) (value : α) (cs : List Char) :
    Except ReadFault (Record α × List Char) :=
  match skipSpaces cs with
  | '{' :: rest =>
    match skipSpaces rest with
    | '}' :: rest => .ok (⟨.object, [], value⟩, rest)
    | inside => readMembers fields readField (inside.length + 1) [] value inside
  | '[' :: rest =>
    match skipSpaces rest with
    | ']' :: rest => .ok (⟨.array, [], value⟩, rest)
    | inside => readItems readField fields [] value inside
  | _ => .error .malformed

/-- Reads a variant, after blanks. -/
def readVariant? (ofName? : String → Option α) (cs : List Char) : Option (α × List Char) := do
  match skipSpaces cs with
  | '{' :: rest =>
    let (name, rest) ← readText? rest
    let variant ← ofName? name
    match skipSpaces rest with
    | ':' :: rest =>
      let rest ← readNull? rest
      match skipSpaces rest with
      | '}' :: rest => some (variant, rest)
      | _ => none
    | _ => none
  | inside =>
    let (name, rest) ← readText? inside
    let variant ← ofName? name
    some (variant, rest)

/-- Accepts a value after which nothing but blanks follows. -/
def whole (reading : Reading α) : Except ReadFault α :=
  match reading with
  | .error fault => .error fault
  | .ok (value, rest) => if (skipSpaces rest).isEmpty then .ok value else .error .malformed

end DeliveryBench.Json
