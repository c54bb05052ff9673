/-!
The values of a TOML document, and how tables are entered and filled.

A table remembers how it came about (`Style`), because that decides what may be added to it later:
a header defines a table once, a dotted key may go on only in tables that dotted keys have made,
and a table written in braces is finished. `Node.alter` walks along a path under the rules of one
such walk (`Descent`), makes the tables that are missing, and changes the fields at its end.
-/

namespace DeliveryBench.Toml

/-- How a table came about. -/
inductive Style where
  /-- By a header, or as the document itself. -/
  | header
  /-- By a longer header or as a step on a path to one. -/
  | implied
  /-- By a dotted key. -/
  | dotted
  /-- By a pair of braces. -/
  | inline
  /-- By a dotted key inside braces. -/
  | inlineDotted
deriving DecidableEq, Repr

/-- A value. Numbers with a fraction and points in time are only checked, not kept. -/
inductive Node where
  | text (value : String)
  | integer (value : Int)
  | float
  | boolean (value : Bool)
  | moment
  | array (items : List Node)
  | table (style : Style) (fields : List (String × Node))
  /-- The tables that one repeated header has made; each is a table in header style. -/
  | tables (items : List Node)
deriving Repr

/-- Named values, in order of insertion. -/
abbrev Fields := List (String × Node)

/-- What a path of keys belongs to. -/
inductive Descent where
  | header
  | dotted
  | inline
deriving DecidableEq, Repr

namespace Descent

/-- The style of the tables that a walk makes. -/
def made : Descent → Style
  | .header => .implied
  | .dotted => .dotted
  | .inline => .inlineDotted

/-- Whether a walk may go through a table of this style. -/
def enters : Descent → Style → Bool
  | .header, .header | .header, .implied | .header, .dotted => true
  | .dotted, .implied | .dotted, .dotted => true
  | .inline, .inlineDotted => true
  | _, _ => false

end Descent

namespace Node

/-- Puts a value in the place of the one that has this name. -/
def replace (fields : Fields) (name : String) (value : Node) : Fields :=
  fields.map fun field => if field.1 = name then (name, value) else field

/-- Changes the fields at the end of a path. The change is told the style of the table there. -/
def alter (descent : Descent) (path : List String) (change : Style → Fields → Option Fields)
    (style : Style) (fields : Fields) : Option Fields :=
  match path with
  | [] => change style fields
  | name :: path =>
    match fields.lookup name with
    | none =>
      (alter descent path change descent.made []).map fun made =>
        fields ++ [(name, .table descent.made made)]
    | some (.table inner known) =>
      if descent.enters inner then
        (alter descent path change inner known).map fun changed =>
          replace fields name (.table inner changed)
      else none
    | some (.tables items) =>
      match items.getLast? with
      | some (.table inner known) =>
        (alter descent path change inner known).map fun changed =>
          replace fields name (.tables (items.dropLast ++ [.table inner changed]))
      | _ => none
    | some _ => none

/-- Adds a value under a path of keys whose last one is new. A dotted path has to end in a table
that dotted keys have made. -/
def assign (descent : Descent) (path : List String) (value : Node) (style : Style)
    (fields : Fields) : Option Fields :=
  match path.getLast? with
  | none => none
  | some name =>
    let lead := path.dropLast
    alter descent lead (fun inner known =>
      if !lead.isEmpty && inner != descent.made then none
      else if (known.lookup name).isSome then none
      else some (known ++ [(name, value)])) style fields

/-- Opens the table of a header. One that is only implied so far becomes defined and moves to the
end. -/
def openTable (path : List String) (root : Fields) : Option Fields :=
  match path.getLast? with
  | none => none
  | some name =>
    alter .header path.dropLast (fun _ known =>
      match known.lookup name with
      | none => some (known ++ [(name, .table .header [])])
      | some (.table .implied inner) =>
        some ((known.filter fun field => field.1 != name) ++ [(name, .table .header inner)])
      | some _ => none) .header root

/-- Opens one more table of a repeated header. -/
def openNext (path : List String) (root : Fields) : Option Fields :=
  match path.getLast? with
  | none => none
  | some name =>
    alter .header path.dropLast (fun _ known =>
      match known.lookup name with
      | none => some (known ++ [(name, .tables [.table .header []])])
      | some (.tables items) =>
        some (replace known name (.tables (items ++ [.table .header []])))
      | some _ => none) .header root

end Node

end DeliveryBench.Toml
