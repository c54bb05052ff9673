import DeliveryBench.Toml.Document

/-!
# Documents of plain lines

A document that gives one value to each of some names, a line for each (`Line`), is read as just
that (`parse?_document`), provided that the names are bare, no two of them are the same, and the
values are Booleans or texts that need no escapes. Nothing more is said of other documents here.

The readers are taken one after the other, from the inside: a quoted text (`readText?_quoted`), a
value (`Written.read`), a key (`readKey?_bare`), a line (`Line.Legible.readStatement?`), and all
lines in a row (`readStatements_lines`). What each leaves is the rest of the text after it.
-/

namespace DeliveryBench.Toml

/-! ## Values -/

/-- A character that stands for itself in a text between double quotes. -/
def isPlain (c : Char) : Bool :=
  isPrintable c && c != '"' && c != '\\'

theorem readBasic_plain {text : List Char} (plain : ∀ c ∈ text, isPlain c = true)
    (acc rest : List Char) :
    readBasic .plain acc (text ++ '"' :: rest) = some (acc.reverse ++ text, rest) := by
  induction text generalizing acc with
  | nil =>
      rw [List.append_nil]
      rfl
  | cons c text ih =>
      obtain ⟨first, others⟩ := List.forall_mem_cons.1 plain
      unfold isPlain at first
      simp only [Bool.and_eq_true, bne_iff_ne] at first
      obtain ⟨⟨printable, noQuote⟩, noEscape⟩ := first
      rw [List.cons_append]
      unfold readBasic
      rw [if_neg noQuote, if_neg noEscape, if_pos printable, ih others, List.reverse_cons,
        List.append_assoc]
      rfl

/-- One quote begins a text on one line unless two more follow. -/
theorem readText?_of_single {cs : List Char} (single : ∀ rest, cs ≠ '"' :: '"' :: rest) :
    readText? ('"' :: cs) = readBasic .plain [] cs := by
  unfold readText?
  split
  · rename_i triple
    exact absurd (List.cons.inj triple).2 (single _)
  · rename_i same
    cases same
    rfl
  · rename_i same
    cases same
  · rename_i same
    cases same
  · rename_i other _ _
    exact absurd rfl (other cs)

/-- A quoted text at the end of a line is read to its end. -/
theorem readText?_quoted {text : List Char} (plain : ∀ c ∈ text, isPlain c = true)
    (rest : List Char) :
    readText? ('"' :: (text ++ '"' :: '\n' :: rest)) = some (text, '\n' :: rest) := by
  rw [readText?_of_single, readBasic_plain plain, List.reverse_nil, List.nil_append]
  intro after triple
  cases text with
  | nil => cases triple
  | cons c text =>
      obtain ⟨rfl, -⟩ := List.cons.inj triple
      cases plain '"' List.mem_cons_self

/-- How a value is written that needs no escapes. -/
inductive Written : Node → List Char → Prop
  | text {s : String} : (∀ c ∈ s.toList, isPlain c = true) →
    Written (.text s) ('"' :: (s.toList ++ ['"']))
  | yes : Written (.boolean true) ['t', 'r', 'u', 'e']
  | no : Written (.boolean false) ['f', 'a', 'l', 's', 'e']

theorem Written.read {value : Node} {chars : List Char} (written : Written value chars)
    (fuel room : Nat) (rest : List Char) :
    readValue (fuel + 1) room (chars ++ '\n' :: rest) = some (value, '\n' :: rest) := by
  cases written with
  | @text s plain =>
      rw [List.cons_append, List.append_assoc]
      show (readText? ('"' :: (s.toList ++ '"' :: '\n' :: rest))).map _ = _
      rw [readText?_quoted plain, Option.map_some, String.ofList_toList]
  | yes => rfl
  | no => rfl

/-- No value that is written begins with a blank. -/
theorem Written.skipSpaces_eq {value : Node} {chars : List Char} (written : Written value chars)
    (rest : List Char) : skipSpaces (' ' :: (chars ++ rest)) = chars ++ rest := by
  cases written <;> rfl

/-! ## Names -/

/-- A name that can be written without quotes. -/
structure IsBare (name : List Char) : Prop where
  some : name ≠ []
  bare : ∀ c ∈ name, isBareKey c = true

theorem IsBare.of_all {name : List Char} (some : name ≠ []) (all : name.all isBareKey = true) :
    IsBare name :=
  ⟨some, List.all_eq_true.1 all⟩

theorem IsBare.head {name rest others : List Char} {c : Char} (bare : IsBare name)
    (same : name ++ rest = c :: others) : isBareKey c = true := by
  cases name with
  | nil => exact absurd rfl bare.some
  | cons c' name =>
      obtain ⟨rfl, -⟩ := List.cons.inj same
      exact bare.bare _ List.mem_cons_self

theorem isSpace_of_isBareKey {c : Char} (bare : isBareKey c = true) : isSpace c = false := by
  rw [Bool.eq_false_iff]
  intro space
  unfold isSpace at space
  rw [Bool.or_eq_true, beq_iff_eq, beq_iff_eq] at space
  rcases space with rfl | rfl <;> cases bare

/-- Nothing is skipped before a name. -/
theorem skipSpaces_bare {name : List Char} (bare : IsBare name) (rest : List Char) :
    skipSpaces (name ++ rest) = name ++ rest := by
  cases whole : name ++ rest with
  | nil => rfl
  | cons c others =>
      have noSpace := isSpace_of_isBareKey (bare.head whole)
      exact List.dropWhile_cons_of_neg (Bool.eq_false_iff.1 noSpace)

theorem skipFiller_bare {name : List Char} (bare : IsBare name) (rest : List Char) :
    skipFiller (name ++ rest) = some (name ++ rest) := by
  unfold skipFiller skipLines
  rw [skipSpaces_bare bare]
  split
  · rename_i same
    cases bare.head same
  · rename_i same
    cases bare.head same
  · rename_i same
    cases bare.head same
  · rfl

theorem readKeyPart?_bare {name : List Char} (bare : IsBare name) (rest : List Char) :
    readKeyPart? (name ++ ' ' :: rest) = some (String.ofList name, ' ' :: rest) := by
  have taken : (name ++ ' ' :: rest).takeWhile isBareKey = name := by
    rw [List.takeWhile_append_of_pos bare.bare, List.takeWhile_cons_of_neg (by decide),
      List.append_nil]
  have left : (name ++ ' ' :: rest).dropWhile isBareKey = ' ' :: rest := by
    rw [List.dropWhile_append_of_pos bare.bare, List.dropWhile_cons_of_neg (by decide)]
  unfold readKeyPart?
  split
  · rename_i same
    cases bare.head same
  · rename_i same
    cases bare.head same
  · rw [taken, left]
    split
    · exact absurd rfl bare.some
    · rfl

theorem readKey?_bare {name : List Char} (bare : IsBare name) (rest : List Char) :
    readKey? (name ++ ' ' :: '=' :: rest) = some ([String.ofList name], '=' :: rest) := by
  show readKeyParts (78 + 1) _ = _
  unfold readKeyParts
  rw [skipSpaces_bare bare, readKeyPart?_bare bare]
  rfl

/-! ## Lines -/

/-- A line that gives a value to a name. -/
structure Line where
  name : String
  value : Node
  /-- How the value is written. -/
  written : List Char

namespace Line

def chars (l : Line) : List Char :=
  l.name.toList ++ " = ".toList ++ l.written ++ ['\n']

def statement (l : Line) : Statement :=
  .assign [l.name] l.value

def field (l : Line) : String × Node :=
  (l.name, l.value)

structure Legible (l : Line) : Prop where
  bare : IsBare l.name.toList
  written : Written l.value l.written

variable {l : Line}

theorem chars_append (rest : List Char) :
    l.chars ++ rest = l.name.toList ++ ' ' :: '=' :: ' ' :: (l.written ++ '\n' :: rest) := by
  unfold chars
  simp

theorem Legible.head (legible : l.Legible) {rest others : List Char} {c : Char}
    (same : l.chars ++ rest = c :: others) : isBareKey c = true := by
  rw [chars_append] at same
  exact legible.bare.head same

theorem Legible.readStatement? (legible : l.Legible) (rest : List Char) :
    readStatement? (l.chars ++ rest) = some (l.statement, '\n' :: rest) := by
  have assignment : readAssignment? (l.chars ++ rest) = some (l.statement, '\n' :: rest) := by
    unfold readAssignment?
    rw [chars_append, readKey?_bare legible.bare]
    show (readValue _ _ (skipSpaces (' ' :: (l.written ++ '\n' :: rest)))).map _ = _
    rw [legible.written.skipSpaces_eq, legible.written.read, String.ofList_toList]
    rfl
  rw [← assignment]
  unfold Toml.readStatement?
  split
  · rename_i same
    cases legible.head same
  · rfl

end Line

variable {lines : List Line}

theorem readStatements_lines (legible : ∀ l ∈ lines, l.Legible) {rounds : Nat}
    (enough : lines.length < rounds) :
    readStatements rounds (lines.flatMap Line.chars) = some (lines.map Line.statement) := by
  induction lines generalizing rounds with
  | nil =>
      cases rounds with
      | zero => cases enough
      | succ rounds => rfl
  | cons l rest ih =>
      obtain ⟨first, others⟩ := List.forall_mem_cons.1 legible
      cases rounds with
      | zero => cases enough
      | succ rounds =>
          have unfilled : skipFiller (l.chars ++ rest.flatMap Line.chars) =
              some (l.chars ++ rest.flatMap Line.chars) := by
            rw [Line.chars_append]
            exact skipFiller_bare first.bare _
          rw [List.flatMap_cons]
          unfold readStatements
          rw [unfilled]
          split
          · rename_i same
            cases same
          · rename_i same
            have whole := Option.some.inj same
            rw [Line.chars_append] at whole
            exact absurd whole (by simp)
          · rename_i same
            cases same
            rw [first.readStatement?]
            show (readStatements rounds (rest.flatMap Line.chars)).map _ = _
            rw [ih others (Nat.lt_of_succ_lt_succ enough)]
            rfl

theorem length_le_document (lines : List Line) :
    lines.length ≤ (lines.flatMap Line.chars).length := by
  induction lines with
  | nil => exact Nat.le_refl 0
  | cons l rest ih =>
      rw [List.flatMap_cons, List.length_append, List.length_cons, Nat.add_comm]
      refine Nat.add_le_add ?_ ih
      unfold Line.chars
      rw [List.length_append]
      exact Nat.le_add_left _ _

theorem statements?_lines (legible : ∀ l ∈ lines, l.Legible) :
    statements? (lines.flatMap Line.chars) = some (lines.map Line.statement) := by
  have read := readStatements_lines legible (Nat.lt_succ_of_le (length_le_document lines))
  unfold statements?
  split
  · rename_i same
    cases lines with
    | nil => cases same
    | cons l rest =>
        have marked := (legible l List.mem_cons_self).head (List.flatMap_cons.symm.trans same)
        cases marked
  · exact read

/-! ## Documents -/

/-- A name that is not there yet gets its value at the end. -/
theorem step_statement {root : Fields} {l : Line} (new : l.name ∉ root.map Prod.fst) :
    Assembly.step ⟨root, []⟩ l.statement = some ⟨root ++ [l.field], []⟩ := by
  have absent : root.lookup l.name = none := by
    rw [List.lookup_eq_none_iff]
    intro field member
    rw [bne_iff_ne]
    intro same
    exact new (same ▸ List.mem_map_of_mem member)
  have assigned : Node.alter .header [] (Node.assign .dotted [l.name] l.value) .header root =
      if (root.lookup l.name).isSome then none else some (root ++ [(l.name, l.value)]) :=
    rfl
  show Option.map _ _ = _
  rw [assigned, absent]
  rfl

theorem foldlM_statements {root : Fields}
    (distinct : (root.map Prod.fst ++ lines.map Line.name).Nodup) :
    (lines.map Line.statement).foldlM Assembly.step ⟨root, []⟩ =
      some ⟨root ++ lines.map Line.field, []⟩ := by
  induction lines generalizing root with
  | nil =>
      rw [List.map_nil, List.map_nil, List.append_nil]
      rfl
  | cons l rest ih =>
      have new : l.name ∉ root.map Prod.fst := fun member =>
        (List.nodup_append.1 distinct).2.2 _ member _ List.mem_cons_self rfl
      have further : ((root ++ [l.field]).map Prod.fst ++ rest.map Line.name).Nodup := by
        rw [List.map_append, List.append_assoc]
        exact distinct
      rw [List.map_cons, List.foldlM_cons, step_statement new]
      refine (ih further).trans ?_
      rw [List.append_assoc]
      rfl

/-- **A document of plain lines is read as what its lines say**, in their order. -/
theorem parse?_document (legible : ∀ l ∈ lines, l.Legible)
    (distinct : (lines.map Line.name).Nodup) :
    parse? (String.ofList (lines.flatMap Line.chars)) = some (lines.map Line.field) := by
  have assembled : (lines.map Line.statement).foldlM Assembly.step {} =
      some ⟨lines.map Line.field, []⟩ :=
    foldlM_statements distinct
  unfold parse?
  rw [String.toList_ofList, statements?_lines legible]
  show ((lines.map Line.statement).foldlM Assembly.step {}).bind _ = _
  rw [assembled]
  rfl

end DeliveryBench.Toml
