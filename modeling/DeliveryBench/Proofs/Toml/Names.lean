import DeliveryBench.Toml.Document
import Mathlib.Data.List.Nodup

/-!
# The names of a document

No name stands twice in a document that has been read (`distinct_of_parse?`): each statement either
adds a name that is not there yet or changes the value of one that is. What happens below the
outermost table does not matter for this.
-/

namespace DeliveryBench.Toml

/-- No two fields have the same name. -/
def Distinct (fields : Fields) : Prop :=
  (fields.map Prod.fst).Nodup

variable {fields known root opened : Fields} {name : String} {value : Node} {path : List String}
  {descent : Descent} {style : Style}

theorem map_fst_replace : (Node.replace fields name value).map Prod.fst = fields.map Prod.fst := by
  unfold Node.replace
  rw [List.map_map]
  refine List.map_congr_left fun field _ => ?_
  rw [Function.comp_apply]
  split
  · rename_i same
    exact same.symm
  · rfl

theorem Distinct.replace (distinct : Distinct fields) :
    Distinct (Node.replace fields name value) := by
  unfold Distinct
  rwa [map_fst_replace]

theorem Distinct.concat (distinct : Distinct fields) (new : fields.lookup name = none) :
    Distinct (fields ++ [(name, value)]) := by
  unfold Distinct
  rw [List.map_append]
  refine List.nodup_append.2 ⟨distinct, List.nodup_singleton _, ?_⟩
  intro a member b last
  obtain ⟨field, there, rfl⟩ := List.mem_map.1 member
  rw [List.map_singleton, List.mem_singleton] at last
  rw [List.lookup_eq_none_iff] at new
  have other := new field there
  rw [bne_iff_ne] at other
  exact fun same => other (last.symm.trans same.symm)

theorem Distinct.sublist (distinct : Distinct fields) (part : known.Sublist fields) :
    Distinct known :=
  List.Nodup.sublist (part.map _) distinct

/-- What has a name is found under it. -/
theorem Distinct.lookup_eq {before after : Fields} (distinct : Distinct fields)
    (split : fields = before ++ (name, value) :: after) : fields.lookup name = some value := by
  refine List.lookup_eq_some_iff.2 ⟨before, after, split, fun field member => ?_⟩
  unfold Distinct at distinct
  rw [split, List.map_append, List.map_cons] at distinct
  have apart := (List.nodup_append.1 distinct).2.2
  rw [bne_iff_ne]
  exact (apart field.1 (List.mem_map_of_mem member) name List.mem_cons_self).symm

/-- A change of the fields of a table that keeps their names apart. -/
def KeepsDistinct (change : Style → Fields → Option Fields) : Prop :=
  ∀ {style : Style} {fields changed : Fields}, Distinct fields →
    change style fields = some changed → Distinct changed

variable {change : Style → Fields → Option Fields}

/-- A walk along a path adds a field or replaces one; at the end of the path it is the change. -/
theorem KeepsDistinct.alter (keeps : KeepsDistinct change) :
    KeepsDistinct (Node.alter descent path change) := by
  intro style fields changed distinct altered
  cases path with
  | nil => exact keeps distinct altered
  | cons name path =>
      unfold Node.alter at altered
      split at altered
      · rename_i absent
        obtain ⟨made, -, rfl⟩ := Option.map_eq_some_iff.1 altered
        exact distinct.concat absent
      · split at altered
        · obtain ⟨made, -, rfl⟩ := Option.map_eq_some_iff.1 altered
          exact distinct.replace
        · cases altered
      · split at altered
        · obtain ⟨made, -, rfl⟩ := Option.map_eq_some_iff.1 altered
          exact distinct.replace
        · cases altered
      · cases altered

theorem keepsDistinct_assign (path : List String) (value : Node) :
    KeepsDistinct (Node.assign descent path value) := by
  intro style fields changed distinct assigned
  unfold Node.assign at assigned
  split at assigned
  · cases assigned
  · refine KeepsDistinct.alter ?_ distinct assigned
    intro style known changed distinct added
    dsimp only at added
    split at added
    · cases added
    · split at added
      · cases added
      · rename_i absent
        cases added
        exact distinct.concat (Option.not_isSome_iff_eq_none.1 absent)

theorem Distinct.openTable (distinct : Distinct root)
    (done : Node.openTable path root = some opened) : Distinct opened := by
  unfold Node.openTable at done
  split at done
  · cases done
  · refine KeepsDistinct.alter ?_ distinct done
    intro style known changed distinct added
    dsimp only at added
    split at added
    · rename_i absent
      cases added
      exact distinct.concat absent
    · cases added
      refine (distinct.sublist List.filter_sublist).concat (List.lookup_eq_none_iff.2 ?_)
      intro field member
      rw [bne_comm]
      exact (List.mem_filter.1 member).2
    · cases added

theorem Distinct.openNext (distinct : Distinct root)
    (done : Node.openNext path root = some opened) : Distinct opened := by
  unfold Node.openNext at done
  split at done
  · cases done
  · refine KeepsDistinct.alter ?_ distinct done
    intro style known changed distinct added
    dsimp only at added
    split at added
    · rename_i absent
      cases added
      exact distinct.concat absent
    · cases added
      exact distinct.replace
    · cases added

theorem Distinct.step {a next : Assembly} {statement : Statement} (distinct : Distinct a.root)
    (done : a.step statement = some next) : Distinct next.root := by
  cases statement with
  | assign path value =>
      obtain ⟨root, assigned, rfl⟩ := Option.map_eq_some_iff.1 done
      exact KeepsDistinct.alter (keepsDistinct_assign path value) distinct assigned
  | header path =>
      obtain ⟨root, opened, rfl⟩ := Option.map_eq_some_iff.1 done
      exact distinct.openTable opened
  | nextHeader path =>
      obtain ⟨root, opened, rfl⟩ := Option.map_eq_some_iff.1 done
      exact distinct.openNext opened

theorem Distinct.steps {statements : List Statement} {a last : Assembly}
    (distinct : Distinct a.root) (done : statements.foldlM Assembly.step a = some last) :
    Distinct last.root := by
  induction statements generalizing a with
  | nil =>
      cases done
      exact distinct
  | cons statement rest ih =>
      obtain ⟨next, first, others⟩ := Option.bind_eq_some_iff.1 done
      exact ih (distinct.step first) others

/-- **No name stands twice in a document.** -/
theorem distinct_of_parse? {text : String} (read : parse? text = some fields) :
    Distinct fields := by
  obtain ⟨statements, -, assembles⟩ := Option.bind_eq_some_iff.1 read
  obtain ⟨assembly, done, root⟩ := Option.bind_eq_some_iff.1 assembles
  cases root
  exact Distinct.steps (show Distinct [] from List.nodup_nil) done

end DeliveryBench.Toml
