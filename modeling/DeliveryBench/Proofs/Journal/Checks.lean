import DeliveryBench.Proofs.Journal.Folds
import DeliveryBench.Proofs.Journal.Ledger
import DeliveryBench.Scenario.Meaning
import Mathlib.Data.List.Nodup

/-!
# What the checks find

Each check of a snapshot lists deviations. Where it tells of keys or of workers, it holds one
violation for each name concerned, in ascending order (`Violation.OnePerName`), and so it is known
as soon as it is known which names these are:

* the keys that went to two workers (`affinity_check_is_exact`),
* the keys, or workers, whose count is not the expected one (`count_checks_are_exact`).

The check of the messages goes through two lists in their orders, first through what was published,
then through what was delivered (`delivery_check_is_exact`).

A list is empty exactly if its expectation is met (`splitKeys_eq_nil_iff`,
`keyCountMismatches_eq_nil_iff`, `workerCountMismatches_eq_nil_iff`,
`deliveryViolations_eq_nil_iff`, `payloadMismatches_eq_nil_iff`; all of them in
`Standard.violationsOf_eq_nil_iff`).
-/

namespace DeliveryBench

/-- Every name has a value, so that another to fall back on does not matter. -/
theorem Table.toList_eq {α : Type} (t : Table α) (other : α) :
    t.toList = t.names.map fun name => (name, (t.get? name).getD other) := by
  apply List.filterMap_eq_map_iff_forall_eq_some.2
  intro name named
  cases there : t.get? name with
  | none => exact absurd named (get?_eq_none_iff.1 there)
  | some value => rfl

theorem Counts.count_eq_zero {t : Counts} {name : String} (absent : name ∉ t.names) :
    t.count name = 0 := by
  unfold Counts.count
  rw [Table.get?_eq_none_iff.2 absent]
  rfl

/-! ## One violation for each name -/

theorem filterMap_unless {α β : Type} (p : α → Prop) [DecidablePred p] (f : α → β) (xs : List α) :
    (xs.filterMap fun x => if p x then none else some (f x)) =
      (xs.filter fun x => ¬ p x).map f := by
  rw [← List.filterMap_eq_map, List.filterMap_filter]
  congr 1
  funext x
  by_cases holds : p x <;> simp [holds]

theorem countP_eq_count_map {α β : Type} [BEq β] (f : α → β) (b : β) (xs : List α) :
    (xs.countP fun x => f x == b) = (xs.map f).count b := by
  rw [List.count, List.countP_map]
  rfl

namespace Violation

/-- One violation for each of the names concerned, in ascending order of the names. -/
def OnePerName (found : List Violation) (concerned : String → Prop)
    (tell : String → Violation) : Prop :=
  ∃ names : List String, names.Pairwise (· < ·) ∧ (∀ name, name ∈ names ↔ concerned name) ∧
    found = names.map tell

variable {found : List Violation} {concerned concerned' : String → Prop}
  {tell : String → Violation}

theorem onePerName_filter {names : List String} (ascending : names.Pairwise (· < ·))
    (p : String → Bool) (tell : String → Violation) :
    OnePerName ((names.filter p).map tell) (fun name => name ∈ names ∧ p name = true) tell :=
  ⟨names.filter p, ascending.filter p, fun _ => List.mem_filter, rfl⟩

theorem OnePerName.of_iff (told : OnePerName found concerned tell)
    (same : ∀ name, concerned name ↔ concerned' name) : OnePerName found concerned' tell := by
  obtain ⟨names, ascending, listed, rfl⟩ := told
  exact ⟨names, ascending, fun name => (listed name).trans (same name), rfl⟩

theorem OnePerName.eq_nil_iff (told : OnePerName found concerned tell) :
    found = [] ↔ ∀ name, ¬ concerned name := by
  obtain ⟨names, -, listed, rfl⟩ := told
  rw [List.map_eq_nil_iff, List.eq_nil_iff_forall_not_mem]
  exact forall_congr' fun name => not_congr (listed name)

theorem OnePerName.mem_iff (told : OnePerName found concerned tell) {v : Violation} :
    v ∈ found ↔ ∃ name, concerned name ∧ v = tell name := by
  obtain ⟨names, -, listed, rfl⟩ := told
  rw [List.mem_map]
  exact exists_congr fun name => and_congr (listed name) eq_comm

end Violation

namespace Snapshot

variable {s : Snapshot}

/-! ## Names that occur -/

theorem mem_workers {worker : String} :
    worker ∈ s.workers ↔ ∃ o ∈ s.observations, o.worker = worker := by
  simp [workers, mem_ascending]

theorem mem_keys {key : String} : key ∈ s.keys ↔ ∃ o ∈ s.observations, o.key = some key := by
  simp [keys, mem_ascending]

theorem mem_workersOf {key worker : String} :
    worker ∈ s.workersOf key ↔ ∃ o ∈ s.observations, o.key = some key ∧ o.worker = worker := by
  simp [workersOf, mem_ascending, and_assoc]

theorem countOfWorker_eq_zero_iff {worker : String} :
    s.countOfWorker worker = 0 ↔ worker ∉ s.workers := by
  simp [countOfWorker_eq_countP, mem_workers]

theorem countOfKey_eq_zero_iff {key : String} : s.countOfKey key = 0 ↔ key ∉ s.keys := by
  simp [countOfKey_eq_countP, mem_keys]

/-! ## Counts -/

theorem keyCountMismatches_tell (s : Snapshot) (expected : Counts) :
    Violation.OnePerName (s.keyCountMismatches expected)
      (fun key => (key ∈ expected.names ∨ key ∈ s.keys) ∧ expected.count key ≠ s.countOfKey key)
      fun key => .countMismatch key (expected.count key) (s.countOfKey key) := by
  unfold keyCountMismatches
  rw [filterMap_unless]
  apply (Violation.onePerName_filter (pairwise_ascending _) _ _).of_iff
  intro key
  rw [mem_ascending, List.mem_append, decide_eq_true_iff]

theorem keyCountMismatches_eq_nil_iff (s : Snapshot) (expected : Counts) :
    s.keyCountMismatches expected = [] ↔ ∀ key, expected.count key = s.countOfKey key := by
  rw [(keyCountMismatches_tell s expected).eq_nil_iff]
  constructor
  · intro none key
    by_cases occurs : key ∈ expected.names ∨ key ∈ s.keys
    · exact Decidable.byContradiction fun differs => none key ⟨occurs, differs⟩
    · rw [not_or] at occurs
      rw [Counts.count_eq_zero occurs.1, countOfKey_eq_zero_iff.2 occurs.2]
  · rintro same key ⟨-, differs⟩
    exact differs (same key)

/-- The check of the workers' counts, in its two parts. -/
theorem workerCountMismatches_tell (s : Snapshot) (expected : Counts) :
    ∃ listed unlisted, s.workerCountMismatches expected = listed ++ unlisted ∧
      Violation.OnePerName listed
        (fun worker => worker ∈ expected.names ∧
          expected.count worker ≠ s.countOfWorker worker)
        (fun worker =>
          .workerCountMismatch worker (expected.count worker) (s.countOfWorker worker)) ∧
      Violation.OnePerName unlisted
        (fun worker => worker ∉ expected.names ∧
          expected.count worker ≠ s.countOfWorker worker)
        (fun worker => .workerCountMismatch worker 0 (s.countOfWorker worker)) := by
  refine ⟨_, _, rfl, ?_, ?_⟩
  · rw [filterMap_unless]
    apply (Violation.onePerName_filter (pairwise_ascending _) _ _).of_iff
    intro worker
    rw [decide_eq_true_iff]
    rfl
  · apply (Violation.onePerName_filter (pairwise_ascending _) _ _).of_iff
    intro worker
    rw [Bool.not_eq_true', List.contains_eq_mem, decide_eq_false_iff_not, and_comm]
    apply and_congr_right
    intro unknown
    rw [Counts.count_eq_zero unknown, ne_comm, ne_eq, countOfWorker_eq_zero_iff,
      Decidable.not_not]
    rfl

theorem workerCountMismatches_eq_nil_iff (s : Snapshot) (expected : Counts) :
    s.workerCountMismatches expected = [] ↔
      ∀ worker, expected.count worker = s.countOfWorker worker := by
  obtain ⟨listed, unlisted, parts, told, told'⟩ := workerCountMismatches_tell s expected
  rw [parts, List.append_eq_nil_iff, told.eq_nil_iff, told'.eq_nil_iff]
  constructor
  · rintro ⟨fine, fine'⟩ worker
    apply Decidable.byContradiction
    intro differs
    by_cases known : worker ∈ expected.names
    · exact fine worker ⟨known, differs⟩
    · exact fine' worker ⟨known, differs⟩
  · intro same
    exact ⟨fun worker concerned => concerned.2 (same worker),
      fun worker concerned => concerned.2 (same worker)⟩

/-- **The checks of the counts are exact.** The check by key lists one mismatch for each key,
expected or delivered, whose number of deliveries is not the expected one, in ascending order and
with both numbers. The check by worker does the same for the workers of whom something was expected,
and after them for the others, of whom nothing was expected. Either list is empty exactly if the
numbers are the expected ones for all names whatever. -/
theorem count_checks_are_exact (s : Snapshot) (expected : Counts) :
    let ofKey := fun key => (s.observations.map Observation.key).count (some key)
    let ofWorker := fun worker => (s.observations.map Observation.worker).count worker
    (∀ name, name ∉ expected.names → expected.count name = 0) ∧
      Violation.OnePerName (s.keyCountMismatches expected)
        (fun key => (key ∈ expected.names ∨ some key ∈ s.observations.map Observation.key) ∧
          expected.count key ≠ ofKey key)
        (fun key => .countMismatch key (expected.count key) (ofKey key)) ∧
      (s.keyCountMismatches expected = [] ↔ ∀ key, expected.count key = ofKey key) ∧
      (∃ listed unlisted, s.workerCountMismatches expected = listed ++ unlisted ∧
        Violation.OnePerName listed
          (fun worker => worker ∈ expected.names ∧ expected.count worker ≠ ofWorker worker)
          (fun worker => .workerCountMismatch worker (expected.count worker) (ofWorker worker)) ∧
        Violation.OnePerName unlisted
          (fun worker => worker ∉ expected.names ∧ expected.count worker ≠ ofWorker worker)
          (fun worker => .workerCountMismatch worker 0 (ofWorker worker))) ∧
      (s.workerCountMismatches expected = [] ↔
        ∀ worker, expected.count worker = ofWorker worker) := by
  intro ofKey ofWorker
  have byKey : s.countOfKey = ofKey := funext fun key =>
    (countOfKey_eq_countP s key).trans (countP_eq_count_map _ _ _)
  have byWorker : s.countOfWorker = ofWorker := funext fun worker =>
    (countOfWorker_eq_countP s worker).trans (countP_eq_count_map _ _ _)
  rw [← byKey, ← byWorker]
  refine ⟨fun _ => Counts.count_eq_zero, ?_, keyCountMismatches_eq_nil_iff s expected,
    workerCountMismatches_tell s expected, workerCountMismatches_eq_nil_iff s expected⟩
  apply (keyCountMismatches_tell s expected).of_iff
  intro key
  rw [mem_keys, List.mem_map]

/-! ## Keys and workers -/

/-- A list without repetitions is short exactly if its members are all the same. -/
theorem length_le_one_iff {α : Type} {xs : List α} (distinct : xs.Nodup) :
    xs.length ≤ 1 ↔ ∀ a ∈ xs, ∀ b ∈ xs, a = b := by
  constructor
  · intro short a here b there
    match xs, short with
    | [], _ => cases here
    | [c], _ => rw [List.mem_singleton.1 here, List.mem_singleton.1 there]
  · intro same
    match xs, distinct with
    | [], _ => exact Nat.zero_le 1
    | [c], _ => exact Nat.le_refl 1
    | c :: d :: rest, distinct =>
        have equal := same c (by simp) d (by simp)
        simp [equal] at distinct

/-- A key went to two workers. -/
def IsSplit (s : Snapshot) (key : String) : Prop :=
  ∃ o ∈ s.observations, ∃ o' ∈ s.observations,
    o.key = some key ∧ o'.key = some key ∧ o.worker ≠ o'.worker

theorem one_lt_length_workersOf_iff {key : String} :
    1 < (s.workersOf key).length ↔ s.IsSplit key := by
  have distinct : (s.workersOf key).Nodup := nodup_ascending _
  rw [← Nat.not_le, length_le_one_iff distinct]
  constructor
  · intro several
    apply Classical.byContradiction
    intro whole
    apply several
    intro a here b there
    rcases mem_workersOf.1 here with ⟨o, member, keyed, rfl⟩
    rcases mem_workersOf.1 there with ⟨o', member', keyed', rfl⟩
    exact Decidable.byContradiction fun differs =>
      whole ⟨o, member, o', member', keyed, keyed', differs⟩
  · rintro ⟨o, member, o', member', keyed, keyed', differs⟩ same
    exact differs (same _ (mem_workersOf.2 ⟨o, member, keyed, rfl⟩) _
      (mem_workersOf.2 ⟨o', member', keyed', rfl⟩))

theorem splitKeys_tell (s : Snapshot) :
    Violation.OnePerName s.splitKeys s.IsSplit fun key => .keySplit key (s.workersOf key) := by
  unfold splitKeys
  rw [workersByKey_eq_map, List.filter_map, List.map_map]
  apply (Violation.onePerName_filter (pairwise_ascending _) _ _).of_iff
  intro key
  rw [Function.comp_apply, decide_eq_true_iff, gt_iff_lt, one_lt_length_workersOf_iff]
  apply and_iff_right_of_imp
  rintro ⟨o, member, -, -, keyed, -⟩
  exact mem_keys.2 ⟨o, member, keyed⟩

theorem splitKeys_eq_nil_iff (s : Snapshot) :
    s.splitKeys = [] ↔
      ∀ o ∈ s.observations, ∀ o' ∈ s.observations, ∀ key, o.key = some key → o'.key = some key →
        o.worker = o'.worker := by
  rw [(splitKeys_tell s).eq_nil_iff]
  constructor
  · intro whole o member o' member' key keyed keyed'
    exact Decidable.byContradiction fun differs =>
      whole key ⟨o, member, o', member', keyed, keyed', differs⟩
  · rintro one key ⟨o, member, o', member', keyed, keyed', differs⟩
    exact differs (one o member o' member' key keyed keyed')

/-- The deliveries that have a key. -/
def keyed (s : Snapshot) : Snapshot :=
  ⟨s.observations.filter fun o => o.key.isSome⟩

theorem keys_keyed (s : Snapshot) : s.keyed.keys = s.keys := by
  unfold keyed keys
  rw [List.filterMap_filter]
  congr 2
  funext o
  cases o.key <;> rfl

theorem workersOf_keyed (s : Snapshot) (key : String) :
    s.keyed.workersOf key = s.workersOf key := by
  unfold keyed workersOf
  rw [List.filter_filter]
  congr 2
  apply List.filter_congr
  intro o _
  cases o.key <;> simp

theorem splitKeys_keyed (s : Snapshot) : s.keyed.splitKeys = s.splitKeys := by
  simp only [splitKeys, workersByKey_eq_map, keys_keyed, workersOf_keyed]

/-- **The check of the keys is exact.** It lists one violation for each key that went to two
workers, the empty text being a key like any other, in ascending order and with all the workers that
were delivered the key, in ascending order. The list is empty exactly if deliveries of the same key
always went to the same worker, and deliveries without a key do not matter for it. -/
theorem affinity_check_is_exact (s : Snapshot) :
    (∃ workers : String → List String,
      (∀ key, (workers key).Pairwise (· < ·) ∧ ∀ worker, worker ∈ workers key ↔
        ∃ o ∈ s.observations, o.key = some key ∧ o.worker = worker) ∧
      Violation.OnePerName s.splitKeys
        (fun key => ∃ o ∈ s.observations, ∃ o' ∈ s.observations,
          o.key = some key ∧ o'.key = some key ∧ o.worker ≠ o'.worker)
        (fun key => .keySplit key (workers key))) ∧
      (s.splitKeys = [] ↔ ∀ o ∈ s.observations, ∀ o' ∈ s.observations, ∀ key,
        o.key = some key → o'.key = some key → o.worker = o'.worker) ∧
      Snapshot.splitKeys ⟨s.observations.filter fun o => o.key.isSome⟩ = s.splitKeys := by
  refine ⟨⟨s.workersOf, ?_, splitKeys_tell s⟩, splitKeys_eq_nil_iff s, splitKeys_keyed s⟩
  intro key
  exact ⟨pairwise_ascending _, fun _ => mem_workersOf⟩

example :
    Snapshot.splitKeys ⟨[⟨"b", .ofNat 0, "note", some "", 0⟩, ⟨"a", .ofNat 1, "note", none, 1⟩,
      ⟨"a", .ofNat 2, "note", some "", 2⟩, ⟨"a", .ofNat 3, "note", some "eu", 3⟩]⟩ =
      [.keySplit "" ["a", "b"]] := by decide

/-! ## Messages -/

theorem deliveryOf_eq (s : Snapshot) (m : Message) :
    s.deliveryOf m =
      if s.timesDelivered m.id = 1 then none
      else some (if s.timesDelivered m.id = 0 then .missing m.id m.payload
        else .duplicate m.id m.payload (s.timesDelivered m.id)) := by
  unfold deliveryOf
  split <;> simp_all

section Strangers

variable {known : List MessageId} {observations : List Observation}

theorem strangers_cons_of_mem {o : Observation} (member : o.id ∈ known) :
    strangers known (o :: observations) = strangers known observations := by
  rw [strangers, if_pos (List.contains_iff_mem.2 member)]

theorem strangers_cons_of_not_mem {o : Observation} (stranger : o.id ∉ known) :
    strangers known (o :: observations) = o :: strangers (o.id :: known) observations := by
  rw [strangers, if_neg (mt List.contains_iff_mem.1 stranger)]

/-- Those found are the first deliveries of the messages that are not known. -/
theorem mem_strangers {o : Observation} :
    o ∈ strangers known observations ↔
      o.id ∉ known ∧ observations.find? (fun p => p.id == o.id) = some o := by
  induction observations generalizing known with
  | nil => simp [strangers]
  | cons first rest ih =>
      rw [List.find?_cons]
      by_cases member : first.id ∈ known
      · rw [strangers_cons_of_mem member, ih]
        apply and_congr_right
        intro stranger
        rw [beq_false_of_ne (ne_of_mem_of_not_mem member stranger)]
      · rw [strangers_cons_of_not_mem member, List.mem_cons, ih, List.mem_cons, not_or]
        by_cases same : first.id = o.id
        · rw [same, beq_self_eq_true]
          constructor
          · rintro (rfl | ⟨⟨other, -⟩, -⟩)
            · exact ⟨member, rfl⟩
            · exact absurd rfl other
          · rintro ⟨-, found⟩
            exact .inl (Option.some.inj found).symm
        · rw [beq_false_of_ne same]
          constructor
          · rintro (rfl | ⟨⟨-, stranger⟩, found⟩)
            · exact absurd rfl same
            · exact ⟨stranger, found⟩
          · rintro ⟨stranger, found⟩
            exact .inr ⟨⟨Ne.symm same, stranger⟩, found⟩

/-- They are found in the order of these first deliveries. -/
theorem strangers_pairwise (known : List MessageId) (observations : List Observation) :
    (strangers known observations).Pairwise fun a b =>
      observations.findIdx (fun o => o.id == a.id) <
        observations.findIdx (fun o => o.id == b.id) := by
  induction observations generalizing known with
  | nil => exact List.Pairwise.nil
  | cons first rest ih =>
      -- Whatever differs from the first is found one place later than in the rest.
      have later {id : MessageId} (other : first.id ≠ id) :
          (first :: rest).findIdx (fun o => o.id == id) =
            rest.findIdx (fun o => o.id == id) + 1 := by
        rw [List.findIdx_cons, beq_false_of_ne other, cond_false]
      by_cases member : first.id ∈ known
      · rw [strangers_cons_of_mem member]
        apply (ih known).imp_of_mem
        intro a b here there before
        have other := ne_of_mem_of_not_mem member (mem_strangers.1 here).1
        have other' := ne_of_mem_of_not_mem member (mem_strangers.1 there).1
        rw [later other, later other']
        exact Nat.succ_lt_succ before
      · rw [strangers_cons_of_not_mem member, List.pairwise_cons]
        constructor
        · intro b there
          have other := List.ne_of_not_mem_cons (mem_strangers.1 there).1
          rw [later (Ne.symm other), List.findIdx_cons, beq_self_eq_true, cond_true]
          exact Nat.succ_pos _
        · apply (ih (first.id :: known)).imp_of_mem
          intro a b here there before
          have other := List.ne_of_not_mem_cons (mem_strangers.1 here).1
          have other' := List.ne_of_not_mem_cons (mem_strangers.1 there).1
          rw [later (Ne.symm other), later (Ne.symm other')]
          exact Nat.succ_lt_succ before

theorem mem_strangers_ids {id : MessageId} :
    id ∈ (strangers known observations).map Observation.id ↔
      id ∈ observations.map Observation.id ∧ id ∉ known := by
  constructor
  · intro member
    obtain ⟨o, found, rfl⟩ := List.mem_map.1 member
    obtain ⟨stranger, first⟩ := mem_strangers.1 found
    exact ⟨List.mem_map_of_mem (List.mem_of_find?_eq_some first), stranger⟩
  · rintro ⟨member, stranger⟩
    obtain ⟨o, delivered, rfl⟩ := List.mem_map.1 member
    have some : (observations.find? fun p => p.id == o.id).isSome := by
      rw [List.find?_isSome]
      exact ⟨o, delivered, beq_self_eq_true _⟩
    obtain ⟨first, found⟩ := Option.isSome_iff_exists.1 some
    have same : first.id = o.id :=
      eq_of_beq (List.find?_some (p := fun p : Observation => p.id == o.id) found)
    rw [← same] at found stranger ⊢
    exact List.mem_map_of_mem (mem_strangers.2 ⟨stranger, found⟩)

theorem strangers_eq_nil_iff :
    strangers known observations = [] ↔ ∀ o ∈ observations, o.id ∈ known := by
  induction observations with
  | nil => simp [strangers]
  | cons o rest ih =>
      unfold strangers
      by_cases member : o.id ∈ known <;> simp [member, ih]

end Strangers

theorem deliveryViolations_eq_nil_iff (s : Snapshot) (published : List Message) :
    s.deliveryViolations published = [] ↔
      (∀ m ∈ published, s.timesDelivered m.id = 1) ∧
        ∀ o ∈ s.observations, o.id ∈ published.map Message.id := by
  unfold deliveryViolations
  rw [List.append_eq_nil_iff, List.filterMap_eq_nil_iff, List.map_eq_nil_iff,
    strangers_eq_nil_iff]
  simp only [deliveryOf_eq, ite_eq_left_iff, reduceCtorEq, imp_false, Decidable.not_not]

/-- Nothing is amiss if no message was delivered twice and just the published ones were. -/
theorem deliveryViolations_eq_nil_iff_ids (s : Snapshot) (published : List Message) :
    s.deliveryViolations published = [] ↔
      (s.observations.map Observation.id).Nodup ∧
        ∀ id, id ∈ s.observations.map Observation.id ↔ id ∈ published.map Message.id := by
  rw [deliveryViolations_eq_nil_iff]
  simp only [timesDelivered_eq_countP, countP_eq_count_map]
  constructor
  · rintro ⟨once, known⟩
    have known' : ∀ id ∈ s.observations.map Observation.id, id ∈ published.map Message.id := by
      intro id member
      obtain ⟨o, delivered, rfl⟩ := List.mem_map.1 member
      exact known o delivered
    have once' : ∀ id ∈ published.map Message.id, (s.observations.map Observation.id).count id = 1 := by
      intro id member
      obtain ⟨m, listed, rfl⟩ := List.mem_map.1 member
      exact once m listed
    refine ⟨List.nodup_iff_count_le_one.2 ?_, fun id => ⟨known' id, ?_⟩⟩
    · intro id
      by_cases member : id ∈ s.observations.map Observation.id
      · exact Nat.le_of_eq (once' id (known' id member))
      · rw [List.count_eq_zero.2 member]
        exact Nat.zero_le 1
    · intro listed
      apply List.count_pos_iff.1
      rw [once' id listed]
      exact Nat.one_pos
  · rintro ⟨distinct, same⟩
    constructor
    · intro m listed
      rw [distinct.count, if_pos ((same m.id).2 (List.mem_map_of_mem listed))]
    · intro o delivered
      exact (same o.id).1 (List.mem_map_of_mem delivered)

/-- Nothing is amiss if just the published messages were delivered, each under an identifier of its
own. -/
theorem deliveryViolations_eq_nil {published : List Message}
    (ids : (s.observations.map Observation.id).Perm (published.map Message.id))
    (distinct : (published.map Message.id).Nodup) : s.deliveryViolations published = [] :=
  (deliveryViolations_eq_nil_iff_ids s published).2 ⟨ids.nodup_iff.2 distinct, fun _ => ids.mem_iff⟩

/-- **The check of the messages is exact.** It lists first, in the order of publishing, every
published message that was not delivered, as missing, and every one that was delivered several
times, with the number of times; then, in the order of their first deliveries, every message that
was delivered without having been published, once, as its first delivery shows it. The list is empty
exactly if no message was delivered twice and the delivered messages are the published ones. -/
theorem delivery_check_is_exact (s : Snapshot) (published : List Message) :
    let times := fun id => (s.observations.map Observation.id).count id
    let place := fun id => s.observations.findIdx fun o => o.id == id
    (∃ strays : List Observation,
      s.deliveryViolations published =
        ((published.filter fun m => times m.id ≠ 1).map fun m =>
          if times m.id = 0 then .missing m.id m.payload
          else .duplicate m.id m.payload (times m.id)) ++
        strays.map (fun o => .unexpected o.id o.payload) ∧
      (∀ id, id ∈ strays.map Observation.id ↔
        id ∈ s.observations.map Observation.id ∧ id ∉ published.map Message.id) ∧
      (∀ o ∈ strays, s.observations.find? (fun p => p.id == o.id) = some o) ∧
      strays.Pairwise fun a b => place a.id < place b.id) ∧
    (s.deliveryViolations published = [] ↔
      (s.observations.map Observation.id).Nodup ∧
        ∀ id, id ∈ s.observations.map Observation.id ↔ id ∈ published.map Message.id) := by
  intro times place
  have counted : s.timesDelivered = times := funext fun id =>
    (timesDelivered_eq_countP s id).trans (countP_eq_count_map _ _ _)
  refine ⟨⟨strangers (published.map Message.id) s.observations, ?_, fun _ => mem_strangers_ids,
    fun o found => (mem_strangers.1 found).2, strangers_pairwise _ _⟩,
    deliveryViolations_eq_nil_iff_ids s published⟩
  unfold deliveryViolations
  rw [← filterMap_unless, ← counted]
  congr 2
  funext m
  exact deliveryOf_eq s m

/-! ## Payloads -/

theorem payloadMismatches_tell (s : Snapshot) (expected : Table (List String)) :
    Violation.OnePerName (s.payloadMismatches expected)
      (fun worker => ∃ wanted, expected.get? worker = some wanted ∧
        ¬ (s.payloadsFor worker).Perm wanted)
      fun worker => .payloadMismatch worker (sortNames ((expected.get? worker).getD []))
        (sortNames (s.payloadsFor worker)) := by
  unfold payloadMismatches
  rw [expected.toList_eq [], List.filterMap_map]
  simp only [Function.comp_def]
  rw [filterMap_unless]
  apply (Violation.onePerName_filter (pairwise_ascending _) _ _).of_iff
  intro worker
  rw [decide_eq_true_iff, sortNames_eq_iff, List.perm_comm]
  cases there : expected.get? worker with
  | none =>
      have unknown := Table.get?_eq_none_iff.1 there
      exact iff_of_false (fun concerned => unknown concerned.1) nofun
  | some wanted =>
      have known : worker ∈ expected.names := by
        apply Decidable.byContradiction
        intro unknown
        cases there.symm.trans (Table.get?_eq_none_iff.2 unknown)
      constructor
      · rintro ⟨-, differs⟩
        exact ⟨wanted, rfl, differs⟩
      · rintro ⟨_, ⟨⟩, differs⟩
        exact ⟨known, differs⟩

theorem payloadMismatches_eq_nil_iff (s : Snapshot) (expected : Table (List String)) :
    s.payloadMismatches expected = [] ↔
      ∀ worker wanted, expected.get? worker = some wanted →
        (s.payloadsFor worker).Perm wanted := by
  rw [(payloadMismatches_tell s expected).eq_nil_iff]
  apply forall_congr'
  intro worker
  simp only [not_exists, not_and, Decidable.not_not]

end Snapshot

/-! ## Expectations -/

/-- The check of an expectation finds nothing exactly if it is met. -/
theorem Standard.violationsOf_eq_nil_iff (standard : Standard) (s : Snapshot) (e : Expectation) :
    standard.violationsOf s e = [] ↔ standard.Meets s.deliveries e := by
  cases e with
  | keyAffinity =>
      simp only [Meets, Snapshot.deliveries, List.forall_mem_map]
      exact s.splitKeys_eq_nil_iff
  | countPerKey counts =>
      simp only [Meets, Snapshot.deliveries, List.countP_map]
      refine (s.keyCountMismatches_eq_nil_iff counts).trans (forall_congr' fun key => ?_)
      rw [Snapshot.countOfKey_eq_countP]
      rfl
  | countPerWorker counts =>
      simp only [Meets, Snapshot.deliveries, List.countP_map]
      refine (s.workerCountMismatches_eq_nil_iff counts).trans (forall_congr' fun worker => ?_)
      rw [Snapshot.countOfWorker_eq_countP]
      rfl
  | deliveredExactly =>
      simp only [Meets, Snapshot.deliveries, List.countP_map, List.forall_mem_map]
      refine (s.deliveryViolations_eq_nil_iff standard.messages).trans ?_
      simp only [Snapshot.timesDelivered_eq_countP]
      rfl
  | expectedPayloads =>
      simp only [Meets, Snapshot.deliveries, List.filter_map, List.map_map]
      exact s.payloadMismatches_eq_nil_iff standard.payloads

end DeliveryBench
