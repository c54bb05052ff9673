import DeliveryBench.Proofs.Journal.Checks
import Mathlib.Algebra.BigOperators.Group.List.Basic
import Mathlib.Algebra.GroupWithZero.Nat

/-!
# The tables of a snapshot

A snapshot is summed up in three tables: how many messages of each key every worker was delivered,
how many deliveries each key had, and who was delivered each key. They are made independently of one
another, and deliveries without a key are in the first of them only. Nevertheless they agree
(`Snapshot.tables_agree`): what one table says can be worked out from another.

All sums come from one fact. Every delivery falls into one class, so that the sizes of the classes
add up to the number of deliveries (`sum_countP_eq_length`).
-/

namespace DeliveryBench

theorem sum_indicator {β : Type} [BEq β] [LawfulBEq β] {b : β} {names : List β}
    (distinct : names.Nodup) (known : b ∈ names) :
    (names.map fun name => if b == name then 1 else 0).sum = 1 := by
  induction names with
  | nil => cases known
  | cons name rest ih =>
      obtain ⟨alone, distinct⟩ := List.nodup_cons.1 distinct
      rw [List.map_cons, List.sum_cons]
      by_cases same : b = name
      · subst same
        have none : (rest.map fun name => if b == name then 1 else 0).sum = 0 := by
          apply List.sum_eq_zero
          intro entry member
          obtain ⟨other, later, rfl⟩ := List.mem_map.1 member
          exact if_neg (mt eq_of_beq (ne_of_mem_of_not_mem later alone).symm)
        rw [none, if_pos (beq_self_eq_true b)]
      · rw [if_neg (mt eq_of_beq same), ih distinct ((List.mem_cons.1 known).resolve_left same)]

/-- The sizes of all classes that occur add up to the length. -/
theorem sum_countP_eq_length {α β : Type} [BEq β] [LawfulBEq β] {f : α → β} {xs : List α}
    {names : List β} (distinct : names.Nodup) (known : ∀ a ∈ xs, f a ∈ names) :
    (names.map fun name => xs.countP fun a => f a == name).sum = xs.length := by
  induction xs with
  | nil => simp
  | cons a rest ih =>
      simp only [List.countP_cons]
      rw [List.sum_map_add, ih fun b member => known b (List.mem_cons_of_mem a member),
        sum_indicator distinct (known a List.mem_cons_self), List.length_cons]

theorem map_fst_graph {α β : Type} (f : α → β) (names : List α) :
    (names.map fun n => (n, f n)).map Prod.fst = names := by
  rw [List.map_map]
  exact List.map_id names

/-- A table over a list of names has an entry for just these. -/
theorem lookup_graph_eq_some_iff {α β : Type} [BEq α] [LawfulBEq α] {f : α → β} {names : List α}
    {name : α} {value : β} :
    (names.map fun n => (n, f n)).lookup name = some value ↔ name ∈ names ∧ f name = value := by
  by_cases member : name ∈ names
  · rw [List.lookup_graph f member, Option.some.injEq]
    exact (and_iff_right member).symm
  · have absent : (names.map fun n => (n, f n)).lookup name = none := by
      rw [List.lookup_eq_none_iff]
      intro entry there
      obtain ⟨n, listed, rfl⟩ := List.mem_map.1 there
      exact bne_iff_ne.2 (ne_of_mem_of_not_mem listed member).symm
    simp [absent, member]

/-- Nothing is lost if a name without an entry counts zero. -/
theorem lookup_graph_getD {α : Type} [BEq α] [LawfulBEq α] (count : α → Nat) {names : List α}
    {name : α} (absent : name ∉ names → count name = 0) :
    ((names.map fun n => (n, count n)).lookup name).getD 0 = count name := by
  by_cases member : name ∈ names
  · rw [List.lookup_graph count member, Option.getD_some]
  · cases there : (names.map fun n => (n, count n)).lookup name with
    | none => exact (absent member).symm
    | some value => exact absurd (lookup_graph_eq_some_iff.1 there).1 member

namespace Snapshot

variable {s : Snapshot}

/-! ## One row -/

theorem row_sum (observations : List Observation) :
    ((row observations).map Prod.snd).sum = observations.length := by
  unfold row
  rw [List.map_map]
  exact sum_countP_eq_length (nodup_keysAmong _) fun o member => mem_keysAmong.2 ⟨o, member, rfl⟩

theorem row_lookup {observations : List Observation} (key : Option String) :
    ((row observations).lookup key).getD 0 = observations.countP fun o => o.key == key := by
  apply lookup_graph_getD fun key => observations.countP fun o => o.key == key
  intro absent
  rw [List.countP_eq_zero]
  intro o member same
  exact absent (mem_keysAmong.2 ⟨o, member, eq_of_beq same⟩)

theorem ne_zero_of_mem_row {observations : List Observation} {entry : Option String × Nat}
    (member : entry ∈ row observations) : entry.2 ≠ 0 := by
  obtain ⟨key, occurs, rfl⟩ := List.mem_map.1 member
  obtain ⟨o, there, same⟩ := mem_keysAmong.1 occurs
  exact Nat.ne_of_gt (List.countP_pos_iff.2 ⟨o, there, beq_iff_eq.2 same⟩)

/-! ## The table of the workers -/

theorem row_eq_some_iff {worker : String} {entries : List (Option String × Nat)} :
    s.countsByWorker.lookup worker = some entries ↔
      worker ∈ s.workers ∧ row (s.observationsFor worker) = entries := by
  rw [countsByWorker_eq_rows]
  exact lookup_graph_eq_some_iff

theorem mem_workers_iff {worker : String} :
    worker ∈ s.workers ↔ (s.observationsFor worker).length ≠ 0 := by
  have counted : (s.observationsFor worker).length = s.countOfWorker worker :=
    ((countOfWorker_eq_countP s worker).trans List.countP_eq_length_filter).symm
  rw [counted, Ne, countOfWorker_eq_zero_iff, Decidable.not_not]

/-- Worker by worker, the deliveries that are of some kind, put together again. -/
theorem sum_over_workers (s : Snapshot) (p : Observation → Bool) :
    (s.workers.map fun worker => (s.observationsFor worker).countP p).sum =
      s.observations.countP p := by
  have each (worker : String) :
      (s.observationsFor worker).countP p =
        (s.observations.filter p).countP fun o => o.worker == worker := by
    rw [observationsFor, List.countP_filter, List.countP_filter]
    exact List.countP_congr fun o _ => by rw [Bool.and_comm]
  simp only [each]
  rw [List.countP_eq_length_filter]
  apply sum_countP_eq_length (nodup_ascending _)
  intro o member
  exact mem_workers.2 ⟨o, List.mem_of_mem_filter member, rfl⟩

/-- The number in one place of the table, nothing if there is none. -/
def entry? (s : Snapshot) (worker : String) (key : Option String) : Option Nat :=
  (s.countsByWorker.lookup worker).bind fun entries => entries.lookup key

theorem entry?_eq_some_iff {worker : String} {key : Option String} {n : Nat} :
    s.entry? worker key = some n ↔
      (∃ o ∈ s.observations, o.worker = worker ∧ o.key = key) ∧
        (s.observations.countP fun o => o.worker == worker && o.key == key) = n := by
  have counted : (s.observationsFor worker).countP (fun o => o.key == key) =
      s.observations.countP fun o => o.worker == worker && o.key == key := by
    rw [observationsFor, List.countP_filter]
    exact List.countP_congr fun o _ => by rw [Bool.and_comm]
  unfold entry?
  rw [Option.bind_eq_some_iff]
  constructor
  · rintro ⟨entries, there, found⟩
    obtain ⟨-, rfl⟩ := row_eq_some_iff.1 there
    obtain ⟨occurs, rfl⟩ := lookup_graph_eq_some_iff.1 found
    obtain ⟨o, own, keyed⟩ := mem_keysAmong.1 occurs
    obtain ⟨member, same⟩ := List.mem_filter.1 own
    exact ⟨⟨o, member, eq_of_beq same, keyed⟩, counted.symm⟩
  · rintro ⟨⟨o, member, rfl, rfl⟩, rfl⟩
    have own : o ∈ s.observationsFor o.worker := List.mem_filter.2 ⟨member, beq_self_eq_true _⟩
    exact ⟨_, row_eq_some_iff.2 ⟨mem_workers.2 ⟨o, member, rfl⟩, rfl⟩,
      lookup_graph_eq_some_iff.2 ⟨mem_keysAmong.2 ⟨o, own, rfl⟩, counted⟩⟩

/-! ## The tables of the keys -/

theorem mem_lookup_workersByKey {key worker : String} :
    worker ∈ (s.workersByKey.lookup key).getD [] ↔
      ∃ o ∈ s.observations, o.key = some key ∧ o.worker = worker := by
  rw [← mem_workersOf, workersByKey_eq_map]
  cases there : (s.keys.map fun key => (key, s.workersOf key)).lookup key with
  | some workers =>
      obtain ⟨-, rfl⟩ := lookup_graph_eq_some_iff.1 there
      rfl
  | none =>
      refine iff_of_false List.not_mem_nil fun member => ?_
      obtain ⟨o, delivered, keyed, -⟩ := mem_workersOf.1 member
      have occurs : key ∈ s.keys := mem_keys.2 ⟨o, delivered, keyed⟩
      cases there.symm.trans (lookup_graph_eq_some_iff.2 ⟨occurs, rfl⟩)

/-! ## The three tables -/

/-- What the tables say of a snapshot, and of one another. -/
structure TablesAgree (s : Snapshot) : Prop where
  /-- No table has two entries for one name. -/
  workers_nodup : (s.countsByWorker.map Prod.fst).Nodup
  row_nodup : ∀ entry ∈ s.countsByWorker, (entry.2.map Prod.fst).Nodup
  keys_nodup : (s.countsByKey.map Prod.fst).Nodup
  /-- The number in a row is that of the deliveries of this key to this worker. -/
  counted : ∀ worker key, (s.entry? worker key).getD 0 =
    s.observations.countP fun o => o.worker == worker && o.key == key
  /-- All numbers of all rows add up to the number of deliveries. -/
  total : (s.countsByWorker.map fun entry => (entry.2.map Prod.snd).sum).sum = s.size
  /-- A row adds up to the number of deliveries to its worker. -/
  row_total : ∀ worker row, s.countsByWorker.lookup worker = some row →
    (row.map Prod.snd).sum = (s.observationsFor worker).length
  /-- The workers that have a row are those that were delivered something. -/
  row_isSome : ∀ worker,
    (s.countsByWorker.lookup worker).isSome ↔ (s.observationsFor worker).length ≠ 0
  /-- The count of a key is what all rows have for it. -/
  key_total : ∀ key, (s.countsByKey.lookup key).getD 0 =
    (s.countsByWorker.map fun entry => (entry.2.lookup (some key)).getD 0).sum
  /-- The workers listed for a key are those in whose row it occurs. -/
  mem_workersOf_key : ∀ key worker,
    worker ∈ (s.workersByKey.lookup key).getD [] ↔ ∃ n, s.entry? worker (some key) = some n ∧ 1 ≤ n
  same_keys : s.countsByKey.map Prod.fst = s.workersByKey.map Prod.fst
  /-- No table has an entry for what does not occur. -/
  row_pos : ∀ entry ∈ s.countsByWorker, ∀ count ∈ entry.2, count.2 ≠ 0
  key_pos : ∀ entry ∈ s.countsByKey, entry.2 ≠ 0
  workersOf_ne_nil : ∀ entry ∈ s.workersByKey, entry.2 ≠ []

/-- **The tables of a snapshot agree.** The numbers in the table of the workers are those of the
deliveries of each key to each worker. They add up to the number of all deliveries, row by row to
that of the deliveries to a worker, and key by key to the count that the table of the keys has. The
workers listed for a key are those in whose rows it occurs, and whatever has an entry anywhere has
been delivered, or has been delivered something, at least once. -/
theorem tables_agree (s : Snapshot) : s.TablesAgree where
  workers_nodup := by
    rw [countsByWorker_eq_rows, map_fst_graph]
    exact nodup_ascending _
  row_nodup := by
    intro entry member
    rw [countsByWorker_eq_rows] at member
    obtain ⟨worker, -, rfl⟩ := List.mem_map.1 member
    exact (map_fst_graph _ _).symm ▸ nodup_keysAmong _
  keys_nodup := by
    exact nodup_names_tally
  counted worker key := by
    cases there : s.entry? worker key with
    | some n => exact (entry?_eq_some_iff.1 there).2.symm
    | none =>
        apply Eq.symm
        rw [Option.getD_none, List.countP_eq_zero]
        intro o member both
        rw [Bool.and_eq_true, beq_iff_eq, beq_iff_eq] at both
        exact absurd (entry?_eq_some_iff.2 ⟨⟨o, member, both⟩, rfl⟩) (by simp [there])
  total := by
    rw [countsByWorker_eq_rows, List.map_map]
    simp only [Function.comp_def, row_sum]
    have all := s.sum_over_workers fun _ => true
    simpa only [List.countP_true, size] using all
  row_total := by
    intro worker row there
    obtain ⟨-, rfl⟩ := row_eq_some_iff.1 there
    exact row_sum _
  row_isSome worker := by
    rw [← mem_workers_iff, Option.isSome_iff_exists]
    simp only [row_eq_some_iff, exists_and_left, exists_eq', and_true]
  key_total key := by
    have counted : (s.countsByKey.lookup key).getD 0 = s.observations.countP fun o =>
        o.key == some key :=
      countOfKey_eq_countP s key
    rw [counted, countsByWorker_eq_rows, List.map_map]
    simp only [Function.comp_def, row_lookup]
    exact (s.sum_over_workers fun o => o.key == some key).symm
  mem_workersOf_key key worker := by
    rw [mem_lookup_workersByKey]
    constructor
    · rintro ⟨o, delivered, keyed, own⟩
      refine ⟨_, entry?_eq_some_iff.2 ⟨⟨o, delivered, own, keyed⟩, rfl⟩, ?_⟩
      exact List.countP_pos_iff.2 ⟨o, delivered, by simp [own, keyed]⟩
    · rintro ⟨n, there, -⟩
      obtain ⟨o, delivered, own, keyed⟩ := (entry?_eq_some_iff.1 there).1
      exact ⟨o, delivered, keyed, own⟩
  same_keys := by
    rw [countsByKey_eq_map, workersByKey_eq_map, map_fst_graph, map_fst_graph]
  row_pos := by
    intro entry member
    rw [countsByWorker_eq_rows] at member
    obtain ⟨worker, -, rfl⟩ := List.mem_map.1 member
    exact fun count there => ne_zero_of_mem_row there
  key_pos := by
    intro entry member
    rw [countsByKey_eq_map] at member
    obtain ⟨key, occurs, rfl⟩ := List.mem_map.1 member
    exact fun none => countOfKey_eq_zero_iff.1 none occurs
  workersOf_ne_nil := by
    intro entry member
    rw [workersByKey_eq_map] at member
    obtain ⟨key, occurs, rfl⟩ := List.mem_map.1 member
    obtain ⟨o, there, keyed⟩ := mem_keys.1 occurs
    exact List.ne_nil_of_mem (mem_workersOf.2 ⟨o, there, keyed, rfl⟩)

end Snapshot

end DeliveryBench
