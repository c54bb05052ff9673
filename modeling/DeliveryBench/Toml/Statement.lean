import DeliveryBench.Toml.Scalar

/-!
The statements of a TOML document: assignments and headers, in the order in which they stand.

Values nest, in brackets and braces, to a limited depth. The readers of nested values call one
another; each call has one unit of fuel less than its caller, and the number of characters is
enough fuel, since every call but the last in a row takes a character.
-/

namespace DeliveryBench.Toml

/-- What one line of a document says. -/
inductive Statement where
  | assign (path : List String) (value : Node)
  | header (path : List String)
  | nextHeader (path : List String)
deriving Repr

/-! ## Values -/

mutual

/-- Reads a value in which brackets and braces may nest `room` deep. -/
def readValue : Nat → Nat → List Char → Option (Node × List Char)
  | 0, _, _ => none
  | fuel + 1, room, cs =>
    match cs with
    | '"' :: _ => (readText? cs).map fun read => (.text (String.ofList read.1), read.2)
    | '\'' :: _ => (readText? cs).map fun read => (.text (String.ofList read.1), read.2)
    | '[' :: rest =>
      match room with
      | 0 => none
      | room + 1 =>
        match skipFiller rest with
        | some (']' :: rest) => some (.array [], rest)
        | some inside =>
          (readItems fuel room [] inside).map fun read => (.array read.1, read.2)
        | none => none
    | '{' :: rest =>
      match room with
      | 0 => none
      | room + 1 =>
        match skipSpaces rest with
        | '}' :: rest => some (.table .inline [], rest)
        | inside =>
          (readFields fuel room [] inside).map fun read => (.table .inline read.1, read.2)
    | _ => readScalar? cs

/-- Reads the items of an array up to its bracket; a comma may follow the last one. -/
def readItems : Nat → Nat → List Node → List Char → Option (List Node × List Char)
  | 0, _, _, _ => none
  | fuel + 1, room, items, cs =>
    match readValue fuel room cs with
    | none => none
    | some (item, rest) =>
      let items := items ++ [item]
      match skipFiller rest with
      | some (']' :: rest) => some (items, rest)
      | some (',' :: rest) =>
        match skipFiller rest with
        | some (']' :: rest) => some (items, rest)
        | some rest => readItems fuel room items rest
        | none => none
      | _ => none

/-- Reads the fields of a table in braces up to the closing brace. -/
def readFields : Nat → Nat → Fields → List Char → Option (Fields × List Char)
  | 0, _, _, _ => none
  | fuel + 1, room, fields, cs =>
    match readKey? cs with
    | some (path, '=' :: rest) =>
      match readValue fuel room (skipSpaces rest) with
      | none => none
      | some (value, rest) =>
        match Node.assign .inline path value .inline fields with
        | none => none
        | some fields =>
          match skipSpaces rest with
          | '}' :: rest => some (fields, rest)
          | ',' :: rest => readFields fuel room fields rest
          | _ => none
    | _ => none

end

/-! ## Statements -/

/-- Reads an assignment. -/
def readAssignment? (cs : List Char) : Option (Statement × List Char) :=
  match readKey? cs with
  | some (path, '=' :: rest) =>
    (readValue (2 * rest.length + 2) (nestingLimit - 1) (skipSpaces rest)).map fun read =>
      (.assign path read.1, read.2)
  | _ => none

/-- Reads a header. -/
def readHeader? : List Char → Option (Statement × List Char)
  | '[' :: '[' :: rest =>
    match readKey? rest with
    | some (path, ']' :: ']' :: rest) => some (.nextHeader path, rest)
    | _ => none
  | '[' :: rest =>
    match readKey? rest with
    | some (path, ']' :: rest) => some (.header path, rest)
    | _ => none
  | _ => none

/-- Reads one statement. -/
def readStatement? (cs : List Char) : Option (Statement × List Char) :=
  match cs with
  | '[' :: _ => readHeader? cs
  | _ => readAssignment? cs

/-- Reads statements to the end of the text, in at most so many rounds. -/
def readStatements : Nat → List Char → Option (List Statement)
  | 0, _ => none
  | rounds + 1, cs =>
    match skipFiller cs with
    | none => none
    | some [] => some []
    | some inside =>
      match readStatement? inside with
      | none => none
      | some (statement, rest) =>
        match lineTail? rest with
        | none => none
        | some rest => (readStatements rounds rest).map (statement :: ·)

/-- Reads all statements of a document, which may begin with a byte order mark. -/
def statements? (text : List Char) : Option (List Statement) :=
  match text with
  | '\uFEFF' :: rest => readStatements (rest.length + 1) rest
  | _ => readStatements (text.length + 1) text

end DeliveryBench.Toml
