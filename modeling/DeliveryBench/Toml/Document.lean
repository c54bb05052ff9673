import DeliveryBench.Toml.Statement

/-!
From the statements of a TOML document to its tables.

Assignments go into the table of the last header before them, or into the document itself.
-/

namespace DeliveryBench.Toml

/-- A document in the making: its fields, and the path of the table that is open. -/
structure Assembly where
  root : Fields := []
  path : List String := []

namespace Assembly

/-- Carries out one statement. -/
def step (a : Assembly) : Statement → Option Assembly
  | .assign path value =>
    (Node.alter .header a.path (Node.assign .dotted path value) .header a.root).map fun root =>
      { a with root }
  | .header path => (Node.openTable path a.root).map fun root => ⟨root, path⟩
  | .nextHeader path => (Node.openNext path a.root).map fun root => ⟨root, path⟩

end Assembly

/-- Reads a document; nothing if the text is malformed. -/
def parse? (text : String) : Option Fields := do
  let statements ← statements? text.toList
  let assembly ← statements.foldlM Assembly.step {}
  pure assembly.root

end DeliveryBench.Toml
