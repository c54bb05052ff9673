import DeliveryBench.Scenario

/-!
# What a draft is built into

A draft that builds has workers, all of different names, and its scenario keeps everything that the
draft says (`build_eq_ok`). If no worker of the draft has a signal and there are messages, all of
them share a new one that waits for as many deliveries (`assemble_of_unsignalled`).
-/

namespace DeliveryBench

namespace Draft

variable {d : Draft} {s : Scenario}

theorem firstRepeated_eq_none_iff {earlier names : List String} :
    firstRepeated earlier names = none ↔ names.Nodup ∧ ∀ name ∈ names, name ∉ earlier := by
  induction names generalizing earlier with
  | nil => simp [firstRepeated]
  | cons name rest ih =>
      unfold firstRepeated
      by_cases before : name ∈ earlier
      · rw [if_pos (List.contains_iff_mem.2 before)]
        constructor
        · intro absurd
          cases absurd
        · rintro ⟨-, new⟩
          exact absurd before (new name List.mem_cons_self)
      · rw [if_neg (by simp [before]), ih, List.nodup_cons]
        constructor
        · rintro ⟨distinct, new⟩
          refine ⟨⟨?_, distinct⟩, ?_⟩
          · intro again
            exact new name again List.mem_cons_self
          · intro other member seen
            rcases List.mem_cons.1 member with rfl | later
            · exact before seen
            · exact new other later (List.mem_cons_of_mem _ seen)
        · rintro ⟨⟨alone, distinct⟩, new⟩
          refine ⟨distinct, ?_⟩
          intro other later seen
          rcases List.mem_cons.1 seen with rfl | earlier
          · exact alone later
          · exact new other (List.mem_cons_of_mem _ later) earlier

theorem build_eq_ok (built : d.build = .ok s) :
    d.workers ≠ [] ∧ (d.workers.map WorkerSpec.name).Nodup ∧
      ∃ address, s = d.assemble ⟨address, d.mode⟩ := by
  unfold build at built
  split at built
  · cases built
  · split at built
    · cases built
    · split at built
      · cases built
      · rename_i crewed
        split at built
        · cases built
        · rename_i distinct
          cases built
          refine ⟨by simpa using crewed, (firstRepeated_eq_none_iff.1 distinct).1, _, rfl⟩

/-- Whatever the signals, the scenario has the workers of the draft. -/
theorem assemble_workers (d : Draft) (target : Target) :
    ∃ f : WorkerSpec → Option SignalId,
      (d.assemble target).workers = d.workers.map fun w => { w with signal := f w } := by
  unfold assemble
  split
  · exact ⟨fun _ => some d.signals.length, rfl⟩
  · refine ⟨WorkerSpec.signal, ?_⟩
    exact (List.map_id _).symm

@[simp] theorem assemble_target (d : Draft) (target : Target) :
    (d.assemble target).target = target := by
  unfold assemble
  split <;> rfl

@[simp] theorem assemble_messages (d : Draft) (target : Target) :
    (d.assemble target).messages = d.messages := by
  unfold assemble
  split <;> rfl

theorem assemble_names (d : Draft) (target : Target) :
    (d.assemble target).workers.map WorkerSpec.name = d.workers.map WorkerSpec.name := by
  obtain ⟨f, workers⟩ := d.assemble_workers target
  rw [workers, List.map_map]
  rfl

/-- A scenario keeps what its draft says. -/
theorem build_keeps (built : d.build = .ok s) :
    s.messages = d.messages ∧ s.target.mode = d.mode ∧
      s.workers.map WorkerSpec.name = d.workers.map WorkerSpec.name := by
  obtain ⟨-, -, address, rfl⟩ := build_eq_ok built
  exact ⟨assemble_messages _ _, by rw [assemble_target], assemble_names _ _⟩

/-- Workers without signals share a new one, if there is anything to wait for. -/
theorem assemble_of_unsignalled (target : Target) (unsignalled : ∀ w ∈ d.workers, w.signal = none)
    (some : d.messages ≠ []) :
    (∀ w ∈ (d.assemble target).workers, w.signal = Option.some d.signals.length) ∧
      (d.assemble target).signals[d.signals.length]? =
        Option.some (.fresh d.messages.length) := by
  have lacks : d.lacksSignal = true := by
    unfold lacksSignal
    simp only [Bool.and_eq_true, Bool.not_eq_true', List.isEmpty_eq_false_iff, List.all_eq_true]
    exact ⟨some, fun w member => by rw [unsignalled w member]; rfl⟩
  unfold assemble
  rw [if_pos lacks]
  refine ⟨?_, List.getElem?_concat_length⟩
  intro w member
  rcases List.mem_map.1 member with ⟨_, -, rfl⟩
  rfl

end Draft

namespace Scenario

theorem mem_addNew {named : List SignalId} {signal : Option SignalId} {id : SignalId} :
    id ∈ addNew named signal ↔ id ∈ named ∨ signal = some id := by
  unfold addNew
  cases signal with
  | none => simp
  | some other =>
      dsimp only
      split
      · rename_i known
        rw [List.contains_iff_mem] at known
        constructor
        · exact .inl
        · rintro (before | same)
          · exact before
          · cases same
            exact known
      · simp [eq_comm]

/-- The signals to be waited for are those that workers carry. -/
theorem mem_distinctSignals {workers : List WorkerSpec} {id : SignalId} :
    id ∈ distinctSignals workers ↔ ∃ w ∈ workers, w.signal = some id := by
  have collected (signals : List (Option SignalId)) (named : List SignalId) :
      id ∈ signals.foldl addNew named ↔ id ∈ named ∨ some id ∈ signals := by
    induction signals generalizing named with
    | nil => simp
    | cons signal rest ih =>
        rw [List.foldl_cons, ih, mem_addNew, List.mem_cons, or_assoc, eq_comm (a := signal)]
  unfold distinctSignals
  rw [collected]
  simp

theorem nodup_addNew {named : List SignalId} (nodup : named.Nodup) (signal : Option SignalId) :
    (addNew named signal).Nodup := by
  cases signal with
  | none => exact nodup
  | some id =>
      unfold addNew
      dsimp only
      split
      · exact nodup
      · rename_i new
        rw [List.contains_iff_mem] at new
        refine List.nodup_append.2 ⟨nodup, List.pairwise_singleton _ id, ?_⟩
        rintro other before id' alone rfl
        exact new (List.mem_singleton.1 alone ▸ before)

/-- Each of them once. -/
theorem nodup_distinctSignals (workers : List WorkerSpec) : (distinctSignals workers).Nodup := by
  unfold distinctSignals
  exact List.foldlRecOn _ addNew List.nodup_nil
    fun _ nodup signal _ => nodup_addNew nodup signal

end Scenario

end DeliveryBench
