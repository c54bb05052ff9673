/-!
# Steps that may fail

A sequence of steps goes through if each of them does, and fails with the first that fails
(`bind_eq_ok_iff`, `bind_eq_error_iff`). The same of a fold is `foldlM_eq_error_iff`. Where it depends
on the elements alone which steps fail, the fault of a fold can be found without taking any
(`foldlM_eq_error_iff_findSome?`).
-/

namespace DeliveryBench

variable {α β ε : Type} {fault : ε}

theorem bind_eq_ok_iff {x : Except ε α} {f : α → Except ε β} {b : β} :
    x >>= f = .ok b ↔ ∃ a, x = .ok a ∧ f a = .ok b := by
  cases x <;> simp [bind, Except.bind]

theorem bind_eq_error_iff {x : Except ε α} {f : α → Except ε β} :
    x >>= f = .error fault ↔ x = .error fault ∨ ∃ a, x = .ok a ∧ f a = .error fault := by
  cases x <;> simp [bind, Except.bind]

theorem bind_pure_eq_error_iff {x : Except ε α} {f : α → β} :
    (x >>= fun a => pure (f a)) = .error fault ↔ x = .error fault := by
  cases x <;> simp [bind, Except.bind, pure, Except.pure]

variable {f : β → α → Except ε β} {xs : List α} {b : β}

/-- A fold that fails has a first step that fails, and those before it go through. -/
theorem foldlM_eq_error_iff : xs.foldlM f b = .error fault ↔
    ∃ (front : List α) (x : α) (back : List α) (c : β),
      xs = front ++ x :: back ∧ front.foldlM f b = .ok c ∧ f c x = .error fault := by
  induction xs generalizing b with
  | nil => simp [pure, Except.pure]
  | cons x rest ih =>
      rw [List.foldlM_cons]
      constructor
      · intro failed
        cases first : f b x with
        | error fault' =>
            rw [first] at failed
            cases failed
            exact ⟨[], x, rest, b, rfl, rfl, first⟩
        | ok next =>
            rw [first] at failed
            obtain ⟨front, y, back, c, rfl, through, last⟩ := ih.1 failed
            refine ⟨x :: front, y, back, c, rfl, ?_, last⟩
            rw [List.foldlM_cons, first]
            exact through
      · rintro ⟨front, y, back, c, split, through, last⟩
        cases front with
        | nil =>
            cases split
            cases through
            rw [last]
            rfl
        | cons z front =>
            cases split
            rw [List.foldlM_cons] at through
            cases first : f b x with
            | error fault' =>
                rw [first] at through
                cases through
            | ok next =>
                rw [first] at through
                exact ih.2 ⟨front, y, back, c, rfl, through, last⟩

/-- Where it depends on the elements alone which steps of a fold fail, the fold fails with the first
of their faults. -/
theorem foldlM_eq_error_iff_findSome? {fault? : α → Option ε}
    (blames : ∀ b x fault, f b x = .error fault ↔ fault? x = some fault) :
    xs.foldlM f b = .error fault ↔ xs.findSome? fault? = some fault := by
  induction xs generalizing b with
  | nil => exact ⟨nofun, nofun⟩
  | cons x rest ih =>
      rw [List.foldlM_cons]
      cases first : f b x with
      | error fault' =>
          rw [List.findSome?_cons_of_isSome (by rw [(blames b x fault').1 first]; rfl),
            (blames b x fault').1 first]
          exact ⟨fun same => congrArg some (Except.error.inj same),
            fun same => congrArg Except.error (Option.some.inj same)⟩
      | ok next =>
          have none : (fault? x).isNone = true := by
            rw [Option.isNone_iff_eq_none, Option.eq_none_iff_forall_ne_some]
            intro fault' blamed
            cases first.symm.trans ((blames b x fault').2 blamed)
          rw [List.findSome?_cons_of_isNone none]
          exact ih

end DeliveryBench
