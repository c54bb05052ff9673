import Mathlib.Data.List.Nodup

/-!
# Lists in which one place changes

Workers, handles and groups are kept in lists, and most steps put something else in one place of such
a list (`List.set`). All facts here come from taking the list apart at that place
(`set_eq_of_getElem?`).
-/

namespace DeliveryBench

variable {α β : Type} {xs : List α} {i : Nat} {a b : α}

theorem set_eq_of_getElem? (there : xs[i]? = some a) :
    ∃ before after, xs = before ++ a :: after ∧ ∀ b, xs.set i b = before ++ b :: after := by
  obtain ⟨inside, here⟩ := List.getElem?_eq_some_iff.1 there
  refine ⟨xs.take i, xs.drop (i + 1), ?_, fun b => ?_⟩
  · rw [← here, ← List.drop_eq_getElem_cons inside, List.take_append_drop]
  · rw [List.set_eq_take_append_cons_drop, if_pos inside]

theorem map_set_of_same {f : α → β} (there : xs[i]? = some a) (same : f b = f a) :
    (xs.set i b).map f = xs.map f := by
  obtain ⟨before, after, split, changed⟩ := set_eq_of_getElem? there
  rw [changed, split, List.map_append, List.map_append, List.map_cons, List.map_cons, same]

theorem filterMap_set_of_same {f : α → Option β} (there : xs[i]? = some a) (same : f b = f a) :
    (xs.set i b).filterMap f = xs.filterMap f := by
  obtain ⟨before, after, split, changed⟩ := set_eq_of_getElem? there
  rw [changed, split, List.filterMap_append, List.filterMap_append, List.filterMap_cons,
    List.filterMap_cons, same]

/-- What is taken away in one place is gone, if it was in no other. -/
theorem filterMap_set_of_none [DecidableEq β] {f : α → Option β} {y : β} (there : xs[i]? = some a)
    (old : f a = some y) (new : f b = none) (distinct : (xs.filterMap f).Nodup) :
    (xs.set i b).filterMap f = (xs.filterMap f).filter (· ≠ y) := by
  obtain ⟨before, after, split, changed⟩ := set_eq_of_getElem? there
  rw [split, List.filterMap_append, List.filterMap_cons_some old] at distinct
  obtain ⟨elsewhere, -⟩ := List.nodup_cons.1 (List.nodup_middle.1 distinct)
  have others : ∀ z ∈ before.filterMap f ++ after.filterMap f, decide (z ≠ y) = true := by
    intro z member
    rw [decide_eq_true_eq]
    rintro rfl
    exact elsewhere member
  rw [changed, split, List.filterMap_append, List.filterMap_append, List.filterMap_cons_none new,
    List.filterMap_cons_some old, List.filter_append, List.filter_cons_of_neg (by simp),
    ← List.filter_append, List.filter_eq_self.2 others]

/-- The old element makes up for the difference that the new one makes. -/
theorem countP_set_add (p : α → Bool) (b : α) (there : xs[i]? = some a) :
    (xs.set i b).countP p + (if p a then 1 else 0) = xs.countP p + (if p b then 1 else 0) := by
  obtain ⟨before, after, split, changed⟩ := set_eq_of_getElem? there
  rw [changed, split, List.countP_append, List.countP_append, List.countP_cons, List.countP_cons]
  omega

end DeliveryBench
