import DeliveryBench.Journal.Snapshot

/-!
# The journal as one list

`Journal.Keeps` relates a journal to the list of everything that has been recorded, oldest first.
Recording appends to that list (`Keeps.record`), a failure leaves it alone (`Keeps.recordFailure`),
and reading gives it back, in order and with its positions as numbers (`Keeps.observations_eq`).

`Journal.Grows` relates a journal to what becomes of it later: nothing that has been recorded is
lost, and a journal with no more deliveries reads as it did before (`Grows.observations`,
`Grows.snapshot_eq`).

Caveat: the numbers are words. A journal with more entries than there are words no longer reads in
order, hence the bound in `Keeps.observations_eq`.
-/

namespace DeliveryBench

/-- The message that was delivered. -/
def Observation.message (o : Observation) : Message :=
  ⟨o.id, o.payload, o.key⟩

/-- A worker and what it was delivered. -/
abbrev Delivery := String × Message

/-- The workers of a snapshot and what they were delivered, in order. -/
def Snapshot.deliveries (s : Snapshot) : List Delivery :=
  s.observations.map fun o => (o.worker, o.message)

/-! ## Shards -/

/-- Appending to a shard adds the record to the others, somewhere. -/
theorem Shards.append_perm {α : Type} (shards : Shards α) (worker : String) (record : α) :
    (Shards.all (Shards.append shards worker record)).Perm (Shards.all shards ++ [record]) := by
  induction shards with
  | nil => exact .refl _
  | cons shard rest ih =>
      obtain ⟨name, records⟩ := shard
      unfold Shards.append
      unfold Shards.all at ih ⊢
      by_cases same : name = worker
      · rw [if_pos same, List.flatMap_cons, List.flatMap_cons, List.append_assoc,
          List.append_assoc]
        exact List.perm_append_comm.append_left records
      · rw [if_neg same, List.flatMap_cons, List.flatMap_cons, List.append_assoc]
        exact ih.append_left records

/-- The same shards later: records may have been added. -/
structure Shards.Grows {α : Type} (shards shards' : Shards α) : Prop where
  kept : ∃ added, (Shards.all shards').Perm (Shards.all shards ++ added)
  still : (Shards.all shards').length = (Shards.all shards).length → shards' = shards

theorem Shards.Grows.refl {α : Type} (shards : Shards α) : Shards.Grows shards shards where
  kept := ⟨[], by rw [List.append_nil]⟩
  still := fun _ => rfl

theorem Shards.Grows.trans {α : Type} {first middle last : Shards α}
    (early : Shards.Grows first middle) (late : Shards.Grows middle last) :
    Shards.Grows first last := by
  obtain ⟨added, old⟩ := early.kept
  obtain ⟨added', new⟩ := late.kept
  refine ⟨⟨added ++ added', ?_⟩, ?_⟩
  · rw [← List.append_assoc]
    exact new.trans (old.append_right added')
  · intro same
    have length := old.length_eq
    have length' := new.length_eq
    rw [List.length_append] at length length'
    rw [late.still (by omega), early.still (by omega)]

theorem Shards.grows_append {α : Type} (shards : Shards α) (worker : String) (record : α) :
    Shards.Grows shards (Shards.append shards worker record) where
  kept := ⟨[record], Shards.append_perm shards worker record⟩
  still := by
    intro same
    have longer := (Shards.append_perm shards worker record).length_eq
    rw [List.length_append, List.length_singleton] at longer
    omega

theorem Shards.Grows.mem {α : Type} {shards shards' : Shards α} (grows : Shards.Grows shards shards')
    {record : α} (member : record ∈ Shards.all shards) : record ∈ Shards.all shards' := by
  obtain ⟨added, kept⟩ := grows.kept
  exact kept.mem_iff.2 (List.mem_append_left _ member)

namespace Journal

variable {j : Journal} {entries : List Delivery}

/-- Deliveries with their positions as numbers. -/
def numbered (entries : List Delivery) : List Observation :=
  entries.mapIdx fun i e => ⟨e.1, e.2.id, e.2.payload, e.2.key, Word.wrap i⟩

theorem numbered_snoc (entries : List Delivery) (worker : String) (m : Message) :
    numbered (entries ++ [(worker, m)]) =
      numbered entries ++ [⟨worker, m.id, m.payload, m.key, Word.wrap entries.length⟩] := by
  simp [numbered, List.mapIdx_append]

/-- The journal holds these deliveries. -/
structure Keeps (j : Journal) (entries : List Delivery) : Prop where
  next : j.next = Word.wrap entries.length
  observed : (Shards.all j.observed).Perm (numbered entries)

theorem keeps_new : Keeps {} [] where
  next := rfl
  observed := .refl _

theorem Keeps.record (keeps : j.Keeps entries) (worker : String) (m : Message) :
    (j.record worker m).2.Keeps (entries ++ [(worker, m)]) where
  next := by
    show Word.wrap (j.next + 1) = _
    rw [keeps.next, Word.wrap_wrap_succ, List.length_append, List.length_singleton]
  observed := by
    rw [numbered_snoc, ← keeps.next]
    exact (Shards.append_perm _ _ _).trans (keeps.observed.append_right _)

theorem Keeps.recordFailure (keeps : j.Keeps entries) (worker : String) (m : Message)
    (sequence : Nat) (reason : String) :
    (j.recordFailure worker m sequence reason).Keeps entries :=
  ⟨keeps.next, keeps.observed⟩

/-! ## Reading -/

theorem numbered_getElem? (entries : List Delivery) (i : Nat) :
    (numbered entries)[i]? =
      entries[i]?.map fun e => ⟨e.1, e.2.id, e.2.payload, e.2.key, Word.wrap i⟩ := by
  unfold numbered
  rw [List.getElem?_mapIdx]

/-- As long as the numbers have not come round, they ascend. -/
theorem numbered_pairwise (few : entries.length ≤ Word.limit) :
    (numbered entries).Pairwise fun a b => a.sequence < b.sequence := by
  rw [List.pairwise_iff_getElem]
  intro i k inside inside' before
  have size : (numbered entries).length = entries.length := by simp [numbered]
  rw [size] at inside inside'
  simp only [numbered, List.getElem_mapIdx]
  rw [Word.wrap_of_lt (by omega), Word.wrap_of_lt (by omega)]
  exact before

/-- **Reading gives back what was recorded**, in the order of recording. -/
theorem Keeps.observations_eq (keeps : j.Keeps entries) (few : entries.length ≤ Word.limit) :
    j.observations = numbered entries :=
  eq_of_perm_of_ascending ((sortBy_perm _ _).trans keeps.observed)
    (pairwise_sortBy Observation.sequence _) (numbered_pairwise few)

theorem numbered_message (entries : List Delivery) :
    (numbered entries).map Observation.message = entries.map Prod.snd := by
  apply List.ext_getElem?
  intro i
  rw [List.getElem?_map, numbered_getElem?, List.getElem?_map]
  cases entries[i]? <;> rfl

theorem numbered_delivery (entries : List Delivery) :
    (numbered entries).map (fun o => (o.worker, o.message)) = entries := by
  apply List.ext_getElem?
  intro i
  rw [List.getElem?_map, numbered_getElem?]
  cases entries[i]? <;> rfl

theorem Keeps.deliveries_perm (keeps : j.Keeps entries) : j.snapshot.deliveries.Perm entries := by
  have perm : j.snapshot.observations.Perm (numbered entries) :=
    (sortBy_perm _ _).trans keeps.observed
  have mapped := perm.map fun o => (o.worker, o.message)
  rwa [numbered_delivery] at mapped

/-- What a worker is shown to have been delivered is what has been recorded for it. -/
theorem Keeps.observationsFor_message (keeps : j.Keeps entries)
    (few : entries.length ≤ Word.limit) (worker : String) :
    (j.snapshot.observationsFor worker).map Observation.message =
      (entries.filter fun e => e.1 == worker).map Prod.snd := by
  have all : j.snapshot.observations = numbered entries := keeps.observations_eq few
  have back : (entries.filter fun e => e.1 == worker).map Prod.snd =
      (((numbered entries).map fun o => (o.worker, o.message)).filter fun e =>
        e.1 == worker).map Prod.snd := by
    rw [numbered_delivery]
  unfold Snapshot.observationsFor
  rw [all, back, List.filter_map, List.map_map]
  rfl

/-! ## Growing -/

/-- The same journal later. -/
structure Grows (j j' : Journal) : Prop where
  observed : Shards.Grows j.observed j'.observed
  failed : Shards.Grows j.failed j'.failed

theorem Grows.refl (j : Journal) : j.Grows j :=
  ⟨.refl _, .refl _⟩

theorem Grows.trans {first middle last : Journal} (early : first.Grows middle)
    (late : middle.Grows last) : first.Grows last :=
  ⟨early.observed.trans late.observed, early.failed.trans late.failed⟩

theorem grows_record (j : Journal) (worker : String) (m : Message) :
    j.Grows (j.record worker m).2 :=
  ⟨Shards.grows_append _ _ _, .refl _⟩

theorem grows_recordFailure (j : Journal) (worker : String) (m : Message) (sequence : Nat)
    (reason : String) : j.Grows (j.recordFailure worker m sequence reason) :=
  ⟨.refl _, Shards.grows_append _ _ _⟩

theorem mem_observations {o : Observation} : o ∈ j.observations ↔ o ∈ Shards.all j.observed :=
  mem_sortBy

theorem mem_handlerFailures {f : HandlerFailure} :
    f ∈ j.handlerFailures ↔ f ∈ Shards.all j.failed :=
  mem_sortBy

theorem mem_observations_record (j : Journal) (worker : String) (m : Message) :
    ⟨worker, m.id, m.payload, m.key, j.next⟩ ∈ (j.record worker m).2.observations :=
  mem_observations.2 ((Shards.append_perm _ _ _).mem_iff.2 List.mem_concat_self)

theorem mem_handlerFailures_recordFailure_iff {worker : String} {m : Message} {sequence : Nat}
    {reason : String} {f : HandlerFailure} :
    f ∈ (j.recordFailure worker m sequence reason).handlerFailures ↔
      f ∈ j.handlerFailures ∨ f = ⟨worker, m.id, m.payload, reason, sequence⟩ := by
  rw [mem_handlerFailures, mem_handlerFailures, ← List.mem_singleton, ← List.mem_append]
  exact (Shards.append_perm _ _ _).mem_iff

theorem mem_handlerFailures_recordFailure (j : Journal) (worker : String) (m : Message)
    (sequence : Nat) (reason : String) :
    ⟨worker, m.id, m.payload, reason, sequence⟩ ∈
      (j.recordFailure worker m sequence reason).handlerFailures :=
  mem_handlerFailures_recordFailure_iff.2 (.inr rfl)

theorem Grows.mem_observations {j' : Journal} (grows : j.Grows j') {o : Observation}
    (member : o ∈ j.observations) : o ∈ j'.observations :=
  Journal.mem_observations.2 (grows.observed.mem (Journal.mem_observations.1 member))

theorem Grows.mem_handlerFailures {j' : Journal} (grows : j.Grows j') {f : HandlerFailure}
    (member : f ∈ j.handlerFailures) : f ∈ j'.handlerFailures :=
  Journal.mem_handlerFailures.2 (grows.failed.mem (Journal.mem_handlerFailures.1 member))

/-- What has been read once is still among what is read later. -/
theorem Grows.observations {j' : Journal} (grows : j.Grows j') :
    ∃ later, j'.observations.Perm (j.observations ++ later) := by
  obtain ⟨added, kept⟩ := grows.observed.kept
  have before : j.observations.Perm (Shards.all j.observed) := sortBy_perm _ _
  have after : j'.observations.Perm (Shards.all j'.observed) := sortBy_perm _ _
  exact ⟨added, after.trans (kept.trans (before.symm.append_right added))⟩

/-- A journal with no more deliveries than before reads as before. -/
theorem Grows.snapshot_eq {j' : Journal} (grows : j.Grows j')
    (same : j'.snapshot.size = j.snapshot.size) : j'.snapshot = j.snapshot := by
  have before : j.snapshot.size = (Shards.all j.observed).length := (sortBy_perm _ _).length_eq
  have after : j'.snapshot.size = (Shards.all j'.observed).length := (sortBy_perm _ _).length_eq
  have unchanged : j'.observed = j.observed := grows.observed.still (by omega)
  unfold Journal.snapshot Journal.observations
  rw [unchanged]

end Journal

/-! ## The part of one worker -/

/-- The records of one worker, in the order in which they have been written. -/
def Shards.of {α : Type} (shards : Shards α) (worker : String) : List α :=
  match shards with
  | [] => []
  | (name, records) :: rest => if name = worker then records else Shards.of rest worker

theorem Shards.of_append {α : Type} (shards : Shards α) (worker : String) (record : α)
    (name : String) :
    Shards.of (Shards.append shards worker record) name =
      Shards.of shards name ++ if worker = name then [record] else [] := by
  induction shards with
  | nil =>
      show (if worker = name then [record] else []) = [] ++ _
      rw [List.nil_append]
  | cons shard rest ih =>
      obtain ⟨first, records⟩ := shard
      unfold Shards.append
      by_cases here : first = worker
      · subst here
        rw [if_pos rfl]
        unfold Shards.of
        by_cases same : first = name
        · rw [if_pos same, if_pos same, if_pos same]
        · rw [if_neg same, if_neg same, if_neg same, List.append_nil]
      · rw [if_neg here]
        unfold Shards.of
        by_cases same : first = name
        · have other : worker ≠ name := fun eq => here (same.trans eq.symm)
          rw [if_pos same, if_pos same, if_neg other, List.append_nil]
        · rw [if_neg same, if_neg same]
          exact ih

namespace Journal

/-- What the journal holds of one worker. -/
structure HoldsFor (j : Journal) (worker : String) (observations : List Observation)
    (failures : List HandlerFailure) : Prop where
  observed : Shards.of j.observed worker = observations
  failed : Shards.of j.failed worker = failures
  /-- No other shard holds records of this worker. -/
  kept : ∃ entries, j.Keeps entries ∧
    (numbered entries).filter (fun o => o.worker == worker) = observations
  blamed : ((Shards.all j.failed).filter fun f => f.worker == worker).Perm failures

variable {j : Journal} {name : String} {observations : List Observation}
  {failures : List HandlerFailure}

theorem holdsFor_new (worker : String) : HoldsFor {} worker [] [] where
  observed := rfl
  failed := rfl
  kept := ⟨[], keeps_new, rfl⟩
  blamed := .refl _

theorem HoldsFor.record (holds : j.HoldsFor name observations failures) (worker : String)
    (m : Message) :
    (j.record worker m).2.HoldsFor name
      (observations ++ if worker = name then [⟨worker, m.id, m.payload, m.key, j.next⟩] else [])
      failures where
  observed := by
    show Shards.of (Shards.append j.observed worker _) name = _
    rw [Shards.of_append, holds.observed]
  failed := holds.failed
  kept := by
    obtain ⟨entries, keeps, own⟩ := holds.kept
    refine ⟨_, keeps.record worker m, ?_⟩
    rw [numbered_snoc, List.filter_append, own, ← keeps.next]
    by_cases same : worker = name <;> simp [same]
  blamed := holds.blamed

theorem HoldsFor.recordFailure (holds : j.HoldsFor name observations failures) (worker : String)
    (m : Message) (sequence : Nat) (reason : String) :
    (j.recordFailure worker m sequence reason).HoldsFor name observations
      (failures ++ if worker = name then [⟨worker, m.id, m.payload, reason, sequence⟩] else [])
      where
  observed := holds.observed
  failed := by
    show Shards.of (Shards.append j.failed worker _) name = _
    rw [Shards.of_append, holds.failed]
  kept := by
    obtain ⟨entries, keeps, own⟩ := holds.kept
    exact ⟨entries, keeps.recordFailure worker m sequence reason, own⟩
  blamed := by
    have added := (Shards.append_perm j.failed worker
      ⟨worker, m.id, m.payload, reason, sequence⟩).filter fun f => f.worker == name
    rw [List.filter_append] at added
    refine added.trans (.trans (holds.blamed.append_right _) ?_)
    by_cases same : worker = name <;> simp [same]

/-- What is shown of a worker is what has been recorded for it, and in that order as long as the
numbers have not come round. -/
theorem HoldsFor.observationsFor (holds : j.HoldsFor name observations failures) :
    (j.snapshot.observationsFor name).Perm observations ∧
      (j.size ≤ Word.limit → j.snapshot.observationsFor name = observations) := by
  obtain ⟨entries, keeps, own⟩ := holds.kept
  constructor
  · rw [← own]
    exact ((sortBy_perm _ _).trans keeps.observed).filter _
  · intro few
    have size : j.size = entries.length := by
      rw [size, keeps.observed.length_eq]
      exact List.length_mapIdx
    have all : j.snapshot.observations = numbered entries := keeps.observations_eq (size ▸ few)
    unfold Snapshot.observationsFor
    rw [all, own]

theorem HoldsFor.handlerFailures (holds : j.HoldsFor name observations failures) :
    (j.handlerFailures.filter fun f => f.worker == name).Perm failures :=
  ((sortBy_perm _ _).filter _).trans holds.blamed

end Journal

end DeliveryBench
