import DeliveryBench.Journal.Snapshot

/-!
# What the tables of a snapshot come to

The tables are filled one delivery after the other. In the end a count is the number of the
deliveries that are counted (`countOfKey_eq_countP`, `countOfWorker_eq_countP`,
`timesDelivered_eq_countP`), and each table is the list of the names that occur, in ascending order,
with what belongs to each (`countsByKey_eq_map`, `workersByKey_eq_map`, `countsByWorker_eq_rows`).
-/

namespace DeliveryBench

namespace Snapshot

/-! ## Counts -/

theorem timesDelivered_eq_countP (s : Snapshot) (id : MessageId) :
    s.timesDelivered id = s.observations.countP fun o => o.id == id :=
  lookup_tally_count _ _ _ _

theorem countOfWorker_eq_countP (s : Snapshot) (worker : String) :
    s.countOfWorker worker = s.observations.countP fun o => o.worker == worker :=
  lookup_tally_count _ _ _ _

theorem countOfKey_eq_countP (s : Snapshot) (key : String) :
    s.countOfKey key = s.observations.countP fun o => o.key == some key := by
  unfold countOfKey countsByKey
  rw [lookup_tally_count, List.countP_filterMap]
  refine List.countP_congr fun o _ => ?_
  cases o.key <;> rfl

/-! ## The tables of the keys -/

theorem countsByKey_eq_map (s : Snapshot) :
    s.countsByKey = s.keys.map fun key => (key, s.countOfKey key) := by
  have names : s.countsByKey.map Prod.fst = s.keys := by
    unfold countsByKey
    rw [names_tally, List.map_id]
    rfl
  rw [← names]
  exact eq_map_lookup nodup_names_tally 0

theorem workersByKey_eq_map (s : Snapshot) :
    s.workersByKey = s.keys.map fun key => (key, s.workersOf key) := by
  have names : s.workersByKey.map Prod.fst = s.keys := by
    unfold workersByKey
    rw [names_tally, List.map_filterMap]
    refine congrArg (fun keyOf => ascending (s.observations.filterMap keyOf)) (funext fun o => ?_)
    show (o.key.map fun key => (key, o.worker)).map Prod.fst = o.key
    cases o.key <;> rfl
  rw [← names]
  refine (tally_eq_map _ _ _ _ _).trans (List.map_congr_left fun key _ => congrArg (key, ·) ?_)
  rw [foldl_insertAscending]
  refine eq_of_ascending (pairwise_ascending _) (pairwise_ascending _) fun worker => ?_
  rw [workersOf, mem_ascending, mem_ascending, List.mem_map, List.mem_map]
  constructor
  · rintro ⟨keyed, member, rfl⟩
    obtain ⟨listed, same⟩ := List.mem_filter.1 member
    obtain ⟨o, delivered, there⟩ := List.mem_filterMap.1 listed
    obtain ⟨key', keyed', rfl⟩ := Option.map_eq_some_iff.1 there
    obtain rfl : key' = key := eq_of_beq same
    exact ⟨o, List.mem_filter.2 ⟨delivered, beq_iff_eq.2 keyed'⟩, rfl⟩
  · rintro ⟨o, member, rfl⟩
    obtain ⟨delivered, keyed⟩ := List.mem_filter.1 member
    have there : (o.key.map fun key => (key, o.worker)) = some (key, o.worker) := by
      rw [eq_of_beq keyed]
      rfl
    exact ⟨(key, o.worker), List.mem_filter.2
      ⟨List.mem_filterMap.2 ⟨o, delivered, there⟩, beq_self_eq_true key⟩, rfl⟩

/-! ## The table of the workers -/

theorem keyOrder_total (key other : Option String) :
    keyOrder key other = true ∨ keyOrder other key = true := by
  cases key with
  | none => exact .inl rfl
  | some key =>
      cases other with
      | none => exact .inr rfl
      | some other => exact byName_total key other

theorem keyOrder_trans (key other third : Option String) (first : keyOrder key other = true)
    (second : keyOrder other third = true) : keyOrder key third = true := by
  cases key with
  | none => rfl
  | some key =>
      cases other with
      | none => cases first
      | some other =>
          cases third with
          | none => cases second
          | some third => exact byName_trans key other third first second

theorem keyOrder_antisymm {key other : Option String} (first : keyOrder key other = true)
    (back : keyOrder other key = true) : key = other := by
  cases key with
  | none =>
      cases other with
      | none => rfl
      | some other => cases back
  | some key =>
      cases other with
      | none => cases first
      | some other =>
          exact congrArg some
            (String.le_antisymm (of_decide_eq_true first) (of_decide_eq_true back))

/-- The keys among some deliveries, those without a key first. -/
def keysAmong (observations : List Observation) : List (Option String) :=
  let keyed := (ascending (observations.filterMap Observation.key)).map some
  if observations.any fun o => o.key == none then none :: keyed else keyed

variable {observations : List Observation}

theorem mem_keysAmong {key : Option String} :
    key ∈ keysAmong observations ↔ ∃ o ∈ observations, o.key = key := by
  unfold keysAmong
  cases key with
  | none => split <;> simp_all
  | some key => split <;> simp [mem_ascending]

theorem pairwise_keysAmong (observations : List Observation) :
    (keysAmong observations).Pairwise fun key other => key ≠ other ∧ keyOrder key other = true := by
  have keyed : ((ascending (observations.filterMap Observation.key)).map some).Pairwise
      fun key other => key ≠ other ∧ keyOrder key other = true := by
    refine List.pairwise_map.2 ((pairwise_ascending _).imp fun {key other} before => ⟨?_, ?_⟩)
    · rintro ⟨⟩
      exact String.lt_irrefl key before
    · exact decide_eq_true (String.not_lt.1 fun after =>
        String.lt_irrefl key (String.lt_trans before after))
  unfold keysAmong
  split
  · refine List.pairwise_cons.2 ⟨fun other member => ⟨?_, rfl⟩, keyed⟩
    obtain ⟨name, -, rfl⟩ := List.mem_map.1 member
    exact nofun
  · exact keyed

theorem nodup_keysAmong (observations : List Observation) : (keysAmong observations).Nodup :=
  (pairwise_keysAmong observations).imp And.left

/-- What one worker was delivered of each key. -/
def row (observations : List Observation) : List (Option String × Nat) :=
  (keysAmong observations).map fun key => (key, observations.countP fun o => o.key == key)

theorem names_tally_keys (observations : List Observation) :
    (tally keyOrder 0 Observation.key (fun _ count => count + 1) observations).map Prod.fst =
      keysAmong observations := by
  have perm : ((tally keyOrder 0 Observation.key (fun _ count => count + 1) observations).map
      Prod.fst).Perm (keysAmong observations) :=
    (List.perm_ext_iff_of_nodup nodup_names_tally (nodup_keysAmong observations)).2
      fun key => mem_names_tally.trans mem_keysAmong.symm
  exact perm.eq_of_pairwise (fun _ _ _ _ => keyOrder_antisymm)
    (pairwise_names_tally keyOrder_total keyOrder_trans)
    ((pairwise_keysAmong observations).imp And.right)

/-- A row is filled one delivery after the other. -/
theorem tally_keys_eq_row (observations : List Observation) :
    tally keyOrder 0 Observation.key (fun _ count => count + 1) observations =
      row observations := by
  refine (eq_map_lookup nodup_names_tally 0).trans ?_
  rw [names_tally_keys]
  refine List.map_congr_left fun key _ => congrArg (key, ·) ?_
  refine (lookup_tally_count _ _ _ key).trans ?_
  exact List.countP_congr fun o _ => decide_eq_true_iff.trans beq_iff_eq.symm

theorem countsByWorker_eq_rows (s : Snapshot) :
    s.countsByWorker = s.workers.map fun worker => (worker, row (s.observationsFor worker)) := by
  have names : s.countsByWorker.map Prod.fst = s.workers := names_tally _ _ _ _
  rw [← names]
  refine (tally_eq_map _ _ _ _ _).trans (List.map_congr_left fun worker _ => ?_)
  exact congrArg (worker, ·) (tally_keys_eq_row (s.observationsFor worker))

end Snapshot

end DeliveryBench
