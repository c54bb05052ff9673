import DeliveryBench.Ordering

/-!
Finite tables from names to values, written as a list of entries. An entry replaces the earlier
entries of its name, so `Table.get?` is the value of the last one and `Table.names` lists each
name once, in ascending order.
-/

namespace DeliveryBench

/-- Entries in the order in which they were given. -/
structure Table (α : Type) where
  entries : List (String × α) := []
deriving Repr, DecidableEq

namespace Table

variable {α : Type}

/-- The value of the last entry with this name. -/
def get? (t : Table α) (name : String) : Option α :=
  t.entries.reverse.lookup name

/-- The names that have an entry, in strictly ascending order. -/
def names (t : Table α) : List String :=
  ascending (t.entries.map Prod.fst)

/-- Removes all entries of a name. -/
def erase (t : Table α) (name : String) : Table α :=
  ⟨t.entries.filter fun entry => entry.1 != name⟩

/-- Gives `name` a value, replacing the one it has. -/
def insert (t : Table α) (name : String) (value : α) : Table α :=
  ⟨(t.erase name).entries ++ [(name, value)]⟩

/-- Each name once, with its value, in ascending order of the names. -/
def toList (t : Table α) : List (String × α) :=
  t.names.filterMap fun name => (t.get? name).map (name, ·)

theorem mem_names {t : Table α} {name : String} :
    name ∈ t.names ↔ ∃ value, (name, value) ∈ t.entries := by
  simp [names, mem_ascending]

theorem get?_eq_none_iff {t : Table α} {name : String} : t.get? name = none ↔ name ∉ t.names := by
  simp only [get?, List.lookup_eq_none_iff, List.mem_reverse, mem_names, not_exists]
  constructor
  · intro none value entry
    exact absurd rfl (bne_iff_ne.1 (none _ entry))
  · rintro absent ⟨other, value⟩ entry
    apply bne_iff_ne.2
    rintro rfl
    exact absent value entry

theorem mem_toList {t : Table α} {name : String} {value : α} :
    (name, value) ∈ t.toList ↔ t.get? name = some value := by
  simp only [toList, List.mem_filterMap, Option.map_eq_some_iff, Prod.mk.injEq]
  constructor
  · rintro ⟨_, -, _, there, rfl, rfl⟩
    exact there
  · intro there
    have named : name ∈ t.names := by
      apply Classical.byContradiction
      intro absent
      rw [get?_eq_none_iff.2 absent] at there
      cases there
    exact ⟨name, named, value, there, rfl, rfl⟩

end Table

/-- A table of numbers, in which a name without an entry counts zero. -/
abbrev Counts := Table Nat

/-- The number recorded for a name. -/
def Counts.count (t : Counts) (name : String) : Nat :=
  (t.get? name).getD 0

end DeliveryBench
