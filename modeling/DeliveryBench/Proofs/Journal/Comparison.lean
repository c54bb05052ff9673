import DeliveryBench.Proofs.Journal.Checks
import DeliveryBench.Proofs.Journal.Recovery
import Mathlib.Data.List.Forall2
import Mathlib.Data.List.Perm.Subperm

/-!
# Two histories compared

Apart from their numbers, the deliveries of a snapshot are all that a check can see
(`Snapshot.deliveries`). Two snapshots are compared by these:

* If they hold the same deliveries in different orders, the counts are the same and the checks find
  the same (`Journal.order_of_deliveries_does_not_matter`). Only the messages that nobody published
  are listed in the order of their deliveries.
* If the one holds further deliveries, whatever was amiss before is still amiss, except that a
  missing message may have come (`Journal.later_deliveries_repair_nothing`).

The former is the latter both ways round, so most lemmas are about further deliveries
(`s.deliveries.Subperm s'.deliveries`).

Caveat: unpublished messages are reported in the order of the numbers of their deliveries, which are
words. Once these have come round, those that are delivered later may be reported earlier; but no
memory holds a journal of that length.
-/

namespace DeliveryBench

namespace Violation

def isMissing : Violation → Bool
  | .missing .. => true
  | _ => false

def isDuplicate : Violation → Bool
  | .duplicate .. => true
  | _ => false

def isUnexpected : Violation → Bool
  | .unexpected .. => true
  | _ => false

/-- The same violation, at least as bad. -/
inductive GrowsInto : Violation → Violation → Prop
  | keySplit {key : String} {workers workers' : List String} : workers ⊆ workers' →
    GrowsInto (.keySplit key workers) (.keySplit key workers')
  | duplicate {id : MessageId} {payload : String} {times times' : Nat} : times ≤ times' →
    GrowsInto (.duplicate id payload times) (.duplicate id payload times')

end Violation

open Violation (GrowsInto)

/-- Equal identifiers mean equal messages. -/
def Journal.Consistent (deliveries : List Delivery) : Prop :=
  ∀ d ∈ deliveries, ∀ d' ∈ deliveries, d.2.id = d'.2.id → d.2 = d'.2

/-- What is found at some places is found again at these places, and as the relation says. -/
theorem sublistForall₂_filterMap {α β : Type} {related : β → β → Prop} {f g : α → Option β}
    (again : ∀ a b, f a = some b → ∃ b', g a = some b' ∧ related b b') (xs : List α) :
    List.SublistForall₂ related (xs.filterMap f) (xs.filterMap g) := by
  induction xs with
  | nil => exact .nil
  | cons a rest ih =>
      cases first : f a with
      | none =>
          rw [List.filterMap_cons_none first]
          cases other : g a with
          | none => rwa [List.filterMap_cons_none other]
          | some b =>
              rw [List.filterMap_cons_some other]
              exact ih.cons_right
      | some b =>
          obtain ⟨b', other, same⟩ := again a b first
          rw [List.filterMap_cons_some first, List.filterMap_cons_some other]
          exact ih.cons same

namespace Snapshot

variable {s s' : Snapshot}

/-! ## What the check of the messages consists of -/

/-- Apart from unpublished messages, the check lists what there is to say of the published ones. -/
theorem filter_deliveryViolations (s : Snapshot) (published : List Message) {p : Violation → Bool}
    (other : ∀ id payload, p (.unexpected id payload) = false) :
    (s.deliveryViolations published).filter p =
      published.filterMap fun m => (s.deliveryOf m).filter p := by
  unfold deliveryViolations
  rw [List.filter_append, List.filter_filterMap, List.filter_map]
  have none : (fun o : Observation => p (.unexpected o.id o.payload)) = fun _ => false :=
    funext fun o => other o.id o.payload
  rw [Function.comp_def, none, List.filter_false, List.map_nil, List.append_nil]

theorem sublistForall₂_deliveryViolations {related : Violation → Violation → Prop}
    {p : Violation → Bool} (other : ∀ id payload, p (.unexpected id payload) = false)
    (again : ∀ m v, (s.deliveryOf m).filter p = some v →
      ∃ v', (s'.deliveryOf m).filter p = some v' ∧ related v v') (published : List Message) :
    List.SublistForall₂ related ((s.deliveryViolations published).filter p)
      ((s'.deliveryViolations published).filter p) := by
  rw [s.filter_deliveryViolations published other, s'.filter_deliveryViolations published other]
  exact sublistForall₂_filterMap again published

theorem filter_isUnexpected (s : Snapshot) (published : List Message) :
    (s.deliveryViolations published).filter Violation.isUnexpected =
      (strangers (published.map Message.id) s.observations).map fun o =>
        .unexpected o.id o.payload := by
  have none (m : Message) : (s.deliveryOf m).filter Violation.isUnexpected = none := by
    rw [deliveryOf_eq]
    split
    · rfl
    · split <;> rfl
  have all : (Violation.isUnexpected ∘ fun o : Observation => .unexpected o.id o.payload) =
      fun _ => true := rfl
  unfold deliveryViolations
  rw [List.filter_append, List.filter_filterMap, List.filter_map, all, List.filter_true]
  simp only [none, List.filterMap_none, List.nil_append]

theorem deliveryOf_filter_isMissing (s : Snapshot) (m : Message) :
    (s.deliveryOf m).filter Violation.isMissing =
      if s.timesDelivered m.id = 0 then some (.missing m.id m.payload) else none := by
  rw [deliveryOf_eq]
  by_cases never : s.timesDelivered m.id = 0
  · rw [never]
    rfl
  · rw [if_neg never, if_neg never]
    split <;> rfl

theorem deliveryOf_filter_isDuplicate (s : Snapshot) (m : Message) :
    (s.deliveryOf m).filter Violation.isDuplicate =
      if 2 ≤ s.timesDelivered m.id then
        some (.duplicate m.id m.payload (s.timesDelivered m.id))
      else none := by
  rw [deliveryOf_eq]
  by_cases several : 2 ≤ s.timesDelivered m.id
  · rw [if_neg (by omega), if_neg (by omega), if_pos several]
    rfl
  · rw [if_neg several]
    by_cases once : s.timesDelivered m.id = 1
    · rw [if_pos once]
      rfl
    · rw [if_neg once, if_pos (by omega)]
      rfl

/-- More deliveries leave the unpublished messages found so far where they are. -/
theorem isPrefix_strangers {observations observations' : List Observation}
    (goesOn : observations <+: observations') (known : List MessageId) :
    strangers known observations <+: strangers known observations' := by
  obtain ⟨later, rfl⟩ := goesOn
  induction observations generalizing known with
  | nil => exact List.nil_prefix
  | cons o rest ih =>
      rw [List.cons_append]
      by_cases member : o.id ∈ known
      · rw [strangers_cons_of_mem member, strangers_cons_of_mem member]
        exact ih known
      · rw [strangers_cons_of_not_mem member, strangers_cons_of_not_mem member]
        exact (List.prefix_cons_inj o).2 (ih _)

/-! ## Further deliveries -/

section Further

variable (more : s.deliveries.Subperm s'.deliveries)

include more

theorem exists_of_subperm (P : Delivery → Prop)
    (there : ∃ o ∈ s.observations, P (o.worker, o.message)) :
    ∃ o ∈ s'.observations, P (o.worker, o.message) := by
  obtain ⟨o, member, holds⟩ := there
  obtain ⟨o', member', same⟩ := List.mem_map.1 (more.subset (List.mem_map_of_mem member))
  exact ⟨o', member', same ▸ holds⟩

theorem countP_le_of_subperm (p : Delivery → Bool) :
    (s.observations.countP fun o => p (o.worker, o.message)) ≤
      s'.observations.countP fun o => p (o.worker, o.message) := by
  have least := more.countP_le p
  rwa [deliveries, deliveries, List.countP_map, List.countP_map] at least

theorem timesDelivered_le (id : MessageId) : s.timesDelivered id ≤ s'.timesDelivered id := by
  rw [timesDelivered_eq_countP, timesDelivered_eq_countP]
  exact countP_le_of_subperm more fun d => d.2.id == id

theorem workersOf_subset (key : String) : s.workersOf key ⊆ s'.workersOf key := by
  intro worker member
  exact mem_workersOf.2 (exists_of_subperm more (fun d => d.2.key = some key ∧ d.1 = worker)
    (mem_workersOf.1 member))

theorem IsSplit.of_subperm {key : String} (split : s.IsSplit key) : s'.IsSplit key := by
  rw [← one_lt_length_workersOf_iff] at split ⊢
  have distinct : (s.workersOf key).Nodup := nodup_ascending _
  exact Nat.lt_of_lt_of_le split (distinct.subperm (workersOf_subset more key)).length_le

/-- A key that was split is so still, and by no fewer workers. -/
theorem splitKeys_grow {v : Violation} (found : v ∈ s.splitKeys) :
    ∃ v' ∈ s'.splitKeys, GrowsInto v v' := by
  obtain ⟨key, split, rfl⟩ := (splitKeys_tell s).mem_iff.1 found
  exact ⟨_, (splitKeys_tell s').mem_iff.2 ⟨key, split.of_subperm more, rfl⟩,
    .keySplit (workersOf_subset more key)⟩

theorem duplicates_grow (published : List Message) :
    List.SublistForall₂ GrowsInto
      ((s.deliveryViolations published).filter Violation.isDuplicate)
      ((s'.deliveryViolations published).filter Violation.isDuplicate) := by
  apply sublistForall₂_deliveryViolations fun _ _ => rfl
  intro m v found
  rw [deliveryOf_filter_isDuplicate] at found ⊢
  have times := timesDelivered_le more m.id
  split at found
  · rename_i several
    cases found
    exact ⟨_, if_pos (Nat.le_trans several times), .duplicate times⟩
  · cases found

theorem missing_shrink (published : List Message) :
    ((s'.deliveryViolations published).filter Violation.isMissing).Sublist
      ((s.deliveryViolations published).filter Violation.isMissing) := by
  have before (m : Message) (v : Violation)
      (found : (s'.deliveryOf m).filter Violation.isMissing = some v) :
      ∃ v', (s.deliveryOf m).filter Violation.isMissing = some v' ∧ v = v' := by
    rw [deliveryOf_filter_isMissing] at found ⊢
    have times := timesDelivered_le more m.id
    split at found
    · rename_i never
      cases found
      exact ⟨_, if_pos (by omega), rfl⟩
    · cases found
  have again := sublistForall₂_deliveryViolations (fun _ _ => rfl) before published
  rw [List.sublistForall₂_iff, List.forall₂_eq_eq_eq] at again
  obtain ⟨_, rfl, part⟩ := again
  exact part

end Further

/-! ## The same deliveries in another order -/

section Order

variable (same : s'.deliveries.Perm s.deliveries)

include same

theorem exists_iff_of_perm (P : Delivery → Prop) :
    (∃ o ∈ s'.observations, P (o.worker, o.message)) ↔
      ∃ o ∈ s.observations, P (o.worker, o.message) :=
  ⟨exists_of_subperm same.subperm P, exists_of_subperm same.symm.subperm P⟩

theorem countP_eq_of_perm (p : Delivery → Bool) :
    (s'.observations.countP fun o => p (o.worker, o.message)) =
      s.observations.countP fun o => p (o.worker, o.message) :=
  Nat.le_antisymm (countP_le_of_subperm same.subperm p)
    (countP_le_of_subperm same.symm.subperm p)

theorem timesDelivered_eq : s'.timesDelivered = s.timesDelivered := by
  funext id
  rw [timesDelivered_eq_countP, timesDelivered_eq_countP]
  exact countP_eq_of_perm same fun d => d.2.id == id

theorem countOfKey_eq : s'.countOfKey = s.countOfKey := by
  funext key
  rw [countOfKey_eq_countP, countOfKey_eq_countP]
  exact countP_eq_of_perm same fun d => d.2.key == some key

theorem countOfWorker_eq : s'.countOfWorker = s.countOfWorker := by
  funext worker
  rw [countOfWorker_eq_countP, countOfWorker_eq_countP]
  exact countP_eq_of_perm same fun d => d.1 == worker

theorem workers_eq : s'.workers = s.workers :=
  eq_of_ascending (pairwise_ascending _) (pairwise_ascending _) fun worker =>
    mem_workers.trans ((exists_iff_of_perm same fun d => d.1 = worker).trans mem_workers.symm)

theorem keys_eq : s'.keys = s.keys :=
  eq_of_ascending (pairwise_ascending _) (pairwise_ascending _) fun key =>
    mem_keys.trans ((exists_iff_of_perm same fun d => d.2.key = some key).trans mem_keys.symm)

theorem workersOf_eq : s'.workersOf = s.workersOf :=
  funext fun key => eq_of_ascending (pairwise_ascending _) (pairwise_ascending _) fun worker =>
    mem_workersOf.trans ((exists_iff_of_perm same fun d =>
      d.2.key = some key ∧ d.1 = worker).trans mem_workersOf.symm)

theorem keysAmong_eq : keysAmong s'.observations = keysAmong s.observations := by
  have keyed : ascending (s'.observations.filterMap Observation.key) =
      ascending (s.observations.filterMap Observation.key) := keys_eq same
  have unkeyed : (s'.observations.any fun o => o.key == none) =
      s.observations.any fun o => o.key == none := by
    rw [Bool.eq_iff_iff, List.any_eq_true, List.any_eq_true]
    exact exists_iff_of_perm same fun d => (d.2.key == none) = true
  rw [keysAmong, keyed, unkeyed, keysAmong]

/-- The parts of one worker hold the same deliveries, too. -/
theorem observationsFor_perm (worker : String) :
    (Snapshot.mk (s'.observationsFor worker)).deliveries.Perm
      (Snapshot.mk (s.observationsFor worker)).deliveries := by
  have own := same.filter fun d => d.1 == worker
  rwa [deliveries, deliveries, List.filter_map, List.filter_map] at own

theorem payloadsFor_perm (worker : String) :
    (s'.payloadsFor worker).Perm (s.payloadsFor worker) := by
  have payloads := (observationsFor_perm same worker).map fun d => d.2.payload
  rwa [deliveries, deliveries, List.map_map, List.map_map] at payloads

theorem countsByKey_eq : s'.countsByKey = s.countsByKey := by
  simp only [countsByKey_eq_map, keys_eq same, countOfKey_eq same]

theorem workersByKey_eq : s'.workersByKey = s.workersByKey := by
  simp only [workersByKey_eq_map, keys_eq same, workersOf_eq same]

theorem countsByWorker_eq : s'.countsByWorker = s.countsByWorker := by
  rw [countsByWorker_eq_rows, countsByWorker_eq_rows, workers_eq same]
  apply List.map_congr_left
  intro worker _
  have own := observationsFor_perm same worker
  have keys : keysAmong (s'.observationsFor worker) = keysAmong (s.observationsFor worker) :=
    keysAmong_eq own
  have count (key : Option String) :
      ((s'.observationsFor worker).countP fun o => o.key == key) =
        (s.observationsFor worker).countP fun o => o.key == key :=
    countP_eq_of_perm own fun d => d.2.key == key
  simp only [row, keys, count]

theorem splitKeys_eq : s'.splitKeys = s.splitKeys := by
  rw [splitKeys, workersByKey_eq same, splitKeys]

theorem keyCountMismatches_eq (expected : Counts) :
    s'.keyCountMismatches expected = s.keyCountMismatches expected := by
  simp only [keyCountMismatches, keys_eq same, countOfKey_eq same]

theorem workerCountMismatches_eq (expected : Counts) :
    s'.workerCountMismatches expected = s.workerCountMismatches expected := by
  simp only [workerCountMismatches, workers_eq same, countOfWorker_eq same]

theorem payloadMismatches_eq (expected : Table (List String)) :
    s'.payloadMismatches expected = s.payloadMismatches expected := by
  have sorted (worker : String) :
      sortNames (s'.payloadsFor worker) = sortNames (s.payloadsFor worker) :=
    sortNames_eq_iff.2 (payloadsFor_perm same worker)
  simp only [payloadMismatches, sorted]

theorem deliveryOf_eq_of_perm : s'.deliveryOf = s.deliveryOf := by
  funext m
  rw [deliveryOf, timesDelivered_eq same, deliveryOf]

end Order

/-! ## Unpublished messages -/

/-- Where equal identifiers mean equal messages, it does not matter which delivery of a message is
the first. -/
theorem mem_unexpected (consistent : Journal.Consistent s.deliveries) {known : List MessageId}
    {v : Violation} :
    v ∈ (strangers known s.observations).map (fun o => .unexpected o.id o.payload) ↔
      ∃ o ∈ s.observations, o.id ∉ known ∧ v = .unexpected o.id o.payload := by
  rw [List.mem_map]
  constructor
  · rintro ⟨o, found, rfl⟩
    obtain ⟨stranger, first⟩ := mem_strangers.1 found
    exact ⟨o, List.mem_of_find?_eq_some first, stranger, rfl⟩
  · rintro ⟨o, member, stranger, rfl⟩
    obtain ⟨first, found, id⟩ :=
      List.mem_map.1 (mem_strangers_ids.2 ⟨List.mem_map_of_mem member, stranger⟩)
    have member' := List.mem_of_find?_eq_some (mem_strangers.1 found).2
    have message : first.message = o.message :=
      consistent _ (List.mem_map_of_mem member') _ (List.mem_map_of_mem member) id
    have payload : first.payload = o.payload := congrArg Message.payload message
    exact ⟨first, found, by rw [id, payload]⟩

theorem nodup_unexpected (known : List MessageId) (observations : List Observation) :
    ((strangers known observations).map fun o => Violation.unexpected o.id o.payload).Nodup := by
  apply List.pairwise_map.2
  apply (strangers_pairwise known observations).imp
  intro a b before same
  injection same with id
  rw [id] at before
  exact Nat.lt_irrefl _ before

theorem unexpected_perm (same : s'.deliveries.Perm s.deliveries)
    (consistent : Journal.Consistent s.deliveries) (published : List Message) :
    ((s'.deliveryViolations published).filter Violation.isUnexpected).Perm
      ((s.deliveryViolations published).filter Violation.isUnexpected) := by
  have consistent' : Journal.Consistent s'.deliveries := by
    simpa only [Journal.Consistent, same.mem_iff] using consistent
  rw [filter_isUnexpected, filter_isUnexpected]
  apply (List.perm_ext_iff_of_nodup (nodup_unexpected _ _) (nodup_unexpected _ _)).2
  intro v
  exact (mem_unexpected consistent').trans ((exists_iff_of_perm same fun d =>
    d.2.id ∉ published.map Message.id ∧ v = .unexpected d.2.id d.2.payload).trans
      (mem_unexpected consistent).symm)

end Snapshot

/-- Whether an expectation is met does not depend on the order of the deliveries. -/
theorem Standard.meets_congr {standard : Standard} {deliveries deliveries' : List Delivery}
    (perm : deliveries.Perm deliveries') (e : Expectation) :
    standard.Meets deliveries e ↔ standard.Meets deliveries' e := by
  cases e with
  | keyAffinity => simp only [Meets, perm.mem_iff]
  | countPerKey | countPerWorker => simp only [Meets, perm.countP_eq]
  | deliveredExactly => simp only [Meets, perm.countP_eq, perm.mem_iff]
  | expectedPayloads =>
      have same (worker : String) := (perm.filter fun d => d.1 == worker).map fun d => d.2.payload
      constructor
      · intro met worker wanted there
        exact (same worker).symm.trans (met worker wanted there)
      · intro met worker wanted there
        exact (same worker).trans (met worker wanted there)

namespace Journal

variable {entries entries' more : List Entry} {j j' : Journal}

theorem deliveries_perm_of_read (read : (writeAll {} entries).2.Rearranged j) :
    j.snapshot.deliveries.Perm (deliveriesIn entries) :=
  ((keeps_new.writeAll entries).rearranged read).deliveries_perm

/-- **The order of the deliveries does not matter.** Two histories of the same deliveries in
different orders, with whatever failures in between: all counts are the same, and so is what the
checks of the keys, of the counts and of the payloads list. The check of the messages lists the same
missing messages and the same repeated ones, in the same order, and, if equal identifiers mean equal
messages, the same unpublished ones in some order. So every check is passed by both or by
neither. -/
theorem order_of_deliveries_does_not_matter
    (same : (deliveriesIn entries').Perm (deliveriesIn entries))
    (read : (writeAll {} entries).2.Rearranged j) (read' : (writeAll {} entries').2.Rearranged j') :
    let s := j.snapshot
    let s' := j'.snapshot
    (s'.splitKeys = s.splitKeys ∧
      (∀ expected, s'.keyCountMismatches expected = s.keyCountMismatches expected) ∧
      (∀ expected, s'.workerCountMismatches expected = s.workerCountMismatches expected) ∧
      ∀ expected, s'.payloadMismatches expected = s.payloadMismatches expected) ∧
    (s'.countsByWorker = s.countsByWorker ∧ s'.countsByKey = s.countsByKey ∧
      s'.workersByKey = s.workersByKey) ∧
    (∀ published,
      (s'.deliveryViolations published).filter (fun v => v.isMissing || v.isDuplicate) =
        (s.deliveryViolations published).filter (fun v => v.isMissing || v.isDuplicate) ∧
      (Consistent (deliveriesIn entries) →
        ((s'.deliveryViolations published).filter Violation.isUnexpected).Perm
          ((s.deliveryViolations published).filter Violation.isUnexpected))) ∧
    ∀ (standard : Standard) (e : Expectation),
      Violation.verdict (standard.violationsOf s' e) = .ok () ↔
        Violation.verdict (standard.violationsOf s e) = .ok () := by
  intro s s'
  have perm : s.deliveries.Perm (deliveriesIn entries) := deliveries_perm_of_read read
  have perm' : s'.deliveries.Perm s.deliveries :=
    (deliveries_perm_of_read read').trans (same.trans perm.symm)
  refine ⟨⟨Snapshot.splitKeys_eq perm', Snapshot.keyCountMismatches_eq perm',
      Snapshot.workerCountMismatches_eq perm', Snapshot.payloadMismatches_eq perm'⟩,
    ⟨Snapshot.countsByWorker_eq perm', Snapshot.countsByKey_eq perm',
      Snapshot.workersByKey_eq perm'⟩, ?_, ?_⟩
  · intro published
    constructor
    · rw [s.filter_deliveryViolations published fun _ _ => rfl,
        s'.filter_deliveryViolations published fun _ _ => rfl,
        Snapshot.deliveryOf_eq_of_perm perm']
    · intro consistent
      apply Snapshot.unexpected_perm perm'
      simpa only [Consistent, perm.mem_iff] using consistent
  · intro standard e
    rw [Violation.verdict_eq_ok_iff, Violation.verdict_eq_ok_iff,
      standard.violationsOf_eq_nil_iff, standard.violationsOf_eq_nil_iff]
    exact Standard.meets_congr perm' e

/-- Two workers that share a key, and a message that nobody published, in two orders. -/
theorem order_of_three_deliveries :
    let note := fun n key => (⟨.ofNat n, "note", key⟩ : Message)
    let entries : List Entry := [.delivery "b" (note 0 (some "eu")),
      .delivery "a" (note 1 (some "eu")), .delivery "a" (note 2 none)]
    let entries' : List Entry := [.delivery "a" (note 2 none), .delivery "a" (note 1 (some "eu")),
      .failure "a" (note 1 (some "eu")) 1 "full", .delivery "b" (note 0 (some "eu"))]
    let written := (writeAll {} entries).2
    let written' := (writeAll {} entries').2
    let j' := { written' with observed := written'.observed.reverse }
    let s := written.snapshot
    let s' := j'.snapshot
    (deliveriesIn entries').Perm (deliveriesIn entries) ∧ written.Rearranged written ∧
      written'.Rearranged j' ∧ s'.splitKeys = s.splitKeys ∧
      s.splitKeys = [.keySplit "eu" ["a", "b"]] ∧
      Consistent (deliveriesIn entries) ∧
      s.deliveryViolations [] ≠ s'.deliveryViolations [] ∧
      ((s'.deliveryViolations []).filter Violation.isUnexpected).Perm
        ((s.deliveryViolations []).filter Violation.isUnexpected) := by
  intro note entries entries' written written' j' s s'
  have same : (deliveriesIn entries').Perm (deliveriesIn entries) :=
    List.reverse_perm (deliveriesIn entries)
  have read : written.Rearranged written := ⟨.refl _, .refl _, rfl⟩
  have read' : written'.Rearranged j' := ⟨List.reverse_perm _, .refl _, rfl⟩
  have consistent : Consistent (deliveriesIn entries) := by
    unfold Consistent
    decide
  obtain ⟨⟨split, -⟩, -, messages, -⟩ := order_of_deliveries_does_not_matter same read read'
  exact ⟨same, read, read', split, by decide, consistent, by decide,
    (messages []).2 consistent⟩

/-! ## Going on -/

theorem isPrefix_numbered (deliveries later : List Delivery) :
    numbered deliveries <+: numbered (deliveries ++ later) := by
  unfold numbered
  rw [List.mapIdx_append]
  exact List.prefix_append _ _

/-- **Later deliveries repair nothing.** Let a history go on with further entries. A key that went
to several workers is still reported, with at least these workers; a message that was delivered
several times is still reported, with at least this number; the unpublished messages reported so far
come first among those reported then, and in the same order, as long as there are enough numbers for
the deliveries; and a message that is missing then has been missing before. -/
theorem later_deliveries_repair_nothing (read : (writeAll {} entries).2.Rearranged j)
    (read' : (writeAll {} (entries ++ more)).2.Rearranged j') :
    let s := j.snapshot
    let s' := j'.snapshot
    (∀ v ∈ s.splitKeys, ∃ v' ∈ s'.splitKeys, v.GrowsInto v') ∧
    ∀ published,
      List.SublistForall₂ GrowsInto
        ((s.deliveryViolations published).filter Violation.isDuplicate)
        ((s'.deliveryViolations published).filter Violation.isDuplicate) ∧
      ((deliveriesIn (entries ++ more)).length ≤ Word.limit →
        (s.deliveryViolations published).filter Violation.isUnexpected <+:
          (s'.deliveryViolations published).filter Violation.isUnexpected) ∧
      ((s'.deliveryViolations published).filter Violation.isMissing).Sublist
        ((s.deliveryViolations published).filter Violation.isMissing) := by
  intro s s'
  have goesOn : deliveriesIn (entries ++ more) = deliveriesIn entries ++ deliveriesIn more :=
    List.filterMap_append
  have further : s.deliveries.Subperm s'.deliveries := by
    have before : s.deliveries.Perm (deliveriesIn entries) := deliveries_perm_of_read read
    have after : s'.deliveries.Perm (deliveriesIn (entries ++ more)) :=
      deliveries_perm_of_read read'
    rw [goesOn] at after
    exact before.subperm.trans ((List.sublist_append_left _ _).subperm.trans after.symm.subperm)
  refine ⟨fun v => Snapshot.splitKeys_grow further, fun published =>
    ⟨Snapshot.duplicates_grow further published, ?_, Snapshot.missing_shrink further published⟩⟩
  intro few
  have shown : s'.observations = numbered (deliveriesIn (entries ++ more)) :=
    ((keeps_new.writeAll _).rearranged read').observations_eq few
  have shown' : s.observations = numbered (deliveriesIn entries) := by
    rw [goesOn, List.length_append] at few
    exact ((keeps_new.writeAll _).rearranged read).observations_eq
      (Nat.le_trans (Nat.le_add_right _ _) few)
  rw [Snapshot.filter_isUnexpected, Snapshot.filter_isUnexpected, shown, shown', goesOn]
  exact (Snapshot.isPrefix_strangers (isPrefix_numbered _ _) _).map _

/-- A split key, a message that came twice and one that nobody published, and what comes after. -/
theorem repairing_nothing_by_three_deliveries :
    let note := fun n => (⟨.ofNat n, "note", some "eu"⟩ : Message)
    let entries : List Entry := [.delivery "b" (note 0), .delivery "a" (note 0),
      .delivery "a" (note 7)]
    let more : List Entry := [.delivery "c" (note 0), .failure "c" (note 0) 3 "full",
      .delivery "a" (note 1), .delivery "a" (note 8)]
    let written := (writeAll {} entries).2
    let written' := (writeAll {} (entries ++ more)).2
    let s := written.snapshot
    let s' := written'.snapshot
    let published := [note 0, note 1, note 2]
    written.Rearranged written ∧ written'.Rearranged written' ∧
      Violation.keySplit "eu" ["a", "b"] ∈ s.splitKeys ∧
      (∃ v' ∈ s'.splitKeys, Violation.GrowsInto (.keySplit "eu" ["a", "b"]) v') ∧
      (s'.deliveryViolations published) = [.duplicate (.ofNat 0) "note" 3,
        .missing (.ofNat 2) "note", .unexpected (.ofNat 7) "note", .unexpected (.ofNat 8) "note"] ∧
      (s.deliveryViolations published).filter Violation.isUnexpected <+:
        (s'.deliveryViolations published).filter Violation.isUnexpected := by
  intro note entries more written written' s s' published
  have read : written.Rearranged written := ⟨.refl _, .refl _, rfl⟩
  have read' : written'.Rearranged written' := ⟨.refl _, .refl _, rfl⟩
  have split : Violation.keySplit "eu" ["a", "b"] ∈ s.splitKeys := by decide
  obtain ⟨keys, messages⟩ := later_deliveries_repair_nothing read read'
  exact ⟨read, read', split, keys _ split, by decide, (messages published).2.1 (by decide)⟩

end Journal

end DeliveryBench
