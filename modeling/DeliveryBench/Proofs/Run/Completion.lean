import DeliveryBench.Proofs.Journal.Checks
import DeliveryBench.Proofs.Run.Underway
import DeliveryBench.Proofs.Scenario.Build
import Mathlib.Algebra.GroupWithZero.Nat
import Mathlib.Algebra.Order.BigOperators.Group.List
import Mathlib.Algebra.Order.Group.Nat

/-!
# A run that has waited for all its deliveries

When a run on a new broker in memory verifies the deliveries and has waited for as many as there are
messages, the accounts of the broker leave no room: nothing is on a queue or in hand any more, and
every worker has on record just its share of the messages (`Reachable.delivered`).
-/

namespace DeliveryBench

/-! ## Dealt out and put together again -/

private theorem sum_of_one {count k : Nat} (value : Nat) (inside : k < count) :
    ((List.range count).map fun i => if i = k then value else 0).sum = value := by
  induction count with
  | zero => cases inside
  | succ count ih =>
      rw [List.range_succ, List.map_append, List.sum_append]
      rcases Nat.lt_succ_iff_lt_or_eq.1 inside with before | rfl
      · rw [ih before]
        simp [Nat.ne_of_gt before]
      · have none : ((List.range k).map fun i => if i = k then value else 0).sum = 0 := by
          apply List.sum_eq_zero
          intro entry member
          rcases List.mem_map.1 member with ⟨i, small, rfl⟩
          exact if_neg (Nat.ne_of_lt (List.mem_range.1 small))
        rw [none]
        simp

/-- Parts into each of which a list's members either go or do not make up the list. -/
private theorem perm_flatMap_filter {α : Type} [DecidableEq α] (xs : List α) (count : Nat)
    (part : Nat → α → Bool)
    (split : ∀ a ∈ xs, ∃ k < count, ∀ i < count, part i a = true ↔ i = k) :
    ((List.range count).flatMap fun i => xs.filter (part i)).Perm xs := by
  apply List.perm_iff_count.2
  intro a
  rw [List.count_flatMap]
  by_cases member : a ∈ xs
  · obtain ⟨k, inside, only⟩ := split a member
    rw [← sum_of_one (xs.count a) inside]
    congr 1
    apply List.map_congr_left
    intro i small
    have only := only i (List.mem_range.1 small)
    show (xs.filter (part i)).count a = _
    by_cases here : i = k
    · rw [if_pos here, List.count_filter (only.2 here)]
    · rw [if_neg here]
      apply List.count_eq_zero.2
      intro kept
      exact here (only.1 (List.mem_filter.1 kept).2)
  · rw [List.count_eq_zero.2 member]
    apply List.sum_eq_zero
    intro entry there
    rcases List.mem_map.1 there with ⟨i, -, rfl⟩
    apply List.count_eq_zero.2
    intro kept
    exact member (List.mem_filter.1 kept).1

/-- First parts that are as much together as the wholes are the wholes. -/
private theorem eq_of_prefix_of_length {α : Type} {labels : List Nat} {first whole : Nat → List α}
    (begins : ∀ i ∈ labels, first i <+: whole i)
    (all : (labels.flatMap whole).length ≤ (labels.flatMap first).length) :
    ∀ i ∈ labels, first i = whole i := by
  induction labels with
  | nil => exact fun _ member => nomatch member
  | cons label rest ih =>
      have tail (i : Nat) (later : i ∈ rest) := begins i (List.mem_cons_of_mem _ later)
      have less : (rest.flatMap first).length ≤ (rest.flatMap whole).length := by
        rw [List.length_flatMap, List.length_flatMap]
        apply List.sum_le_sum
        intro i later
        exact (tail i later).length_le
      have here := begins label List.mem_cons_self
      have less' := here.length_le
      rw [List.flatMap_cons, List.flatMap_cons, List.length_append, List.length_append] at all
      intro i member
      rcases List.mem_cons.1 member with rfl | later
      · exact here.eq_of_length (by omega)
      · exact ih tail (by omega) i later

theorem share_perm {log : List Message} {places : List Place} {count : Nat}
    (same : places.length = log.length)
    (known : ∀ place ∈ places, ∃ i < count, place = .queue i) :
    ((List.range count).flatMap fun i => share log places (.queue i)).Perm log := by
  have parts := perm_flatMap_filter (log.zip places) count
    (fun i entry => entry.2 == .queue i) (by
      rintro ⟨m, place⟩ member
      obtain ⟨k, inside, rfl⟩ := known place (List.of_mem_zip member).2
      refine ⟨k, inside, ?_⟩
      intro i _
      rw [beq_iff_eq, Place.queue.injEq]
      exact eq_comm)
  have messages := parts.map Prod.fst
  rw [List.map_flatMap, List.map_fst_zip (Nat.le_of_eq same.symm)] at messages
  exact messages

namespace Run

variable {s : Scenario} {settings : Settings} {r : Run Broker}

/-! ## Nothing is left -/

/-- Every worker has on record just its share of the messages, whose places follow the law of the
mode. -/
structure Delivered (s : Scenario) (j : Journal) (entries : List (Nat × Message))
    (places : List Place) : Prop where
  kept : j.Keeps (entries.map fun e => (s.nameAt e.1, e.2))
  known : ∀ e ∈ entries, e.1 < s.workers.length
  all : (entries.map Prod.snd).Perm s.messages
  shares : ∀ i < s.workers.length,
    (entries.filter fun e => e.1 == i).map Prod.snd = share s.messages places (.queue i)
  size : places.length = s.messages.length
  placed : ∀ place ∈ places, ∃ i < s.workers.length, place = .queue i
  law : ∃ g : Group, g.mode = s.target.mode ∧ g.consumers.length = s.workers.length ∧
    g.Dealt s.messages places

theorem entries_perm {entries : List (Nat × Message)} {count : Nat}
    (known : ∀ e ∈ entries, e.1 < count) :
    ((List.range count).flatMap fun i => (entries.filter fun e => e.1 == i).map Prod.snd).Perm
      (entries.map Prod.snd) := by
  have parts := perm_flatMap_filter entries count (fun i e => e.1 == i) (by
      intro e member
      refine ⟨e.1, known e member, ?_⟩
      intro i _
      rw [beq_iff_eq]
      exact eq_comm)
  have messages := parts.map Prod.snd
  rwa [List.map_flatMap] at messages

/-- As soon as there are as many deliveries on record as there are messages, nothing is left on a
queue or in hand. -/
theorem Underway.delivered {entries : List (Nat × Message)} {log : List Message}
    {places : List Place} (underway : Underway s r [] entries log places)
    (size : r.workers.length = s.workers.length)
    (enough : s.messages.length ≤ entries.length) :
    Delivered s r.world.journal entries places := by
  have serving := underway.serving
  have accounts := underway.accounts
  obtain rfl : log = s.messages := by
    have messages := underway.messages
    rwa [List.append_nil] at messages
  have placed (place : Place) (member : place ∈ places) :
      ∃ i < r.workers.length, place = .queue i := by
    cases place with
    | queue number =>
        obtain ⟨c, there, rfl⟩ := accounts.known number member
        have inside := serving.steady.orderly.queue_lt c there
        rw [serving.steady.population] at inside
        exact ⟨c.queue, inside, rfl⟩
    | backlog =>
        obtain ⟨gone, split, absent⟩ := accounts.waiting
        rw [serving.steady.backlog] at split
        simp only [List.length_nil, List.replicate_zero, List.append_nil] at split
        exact absurd (split ▸ member) absent
  have begins (i : Nat) (inside : i ∈ List.range r.workers.length) :
      (entries.filter fun e => e.1 == i).map Prod.snd <+: share s.messages places (.queue i) := by
    obtain ⟨c, found, member⟩ := serving.steady.consumer? (List.mem_range.1 inside)
    rcases serving.steady.orderly.consumer?_eq_some_iff.1 found with ⟨-, rfl⟩
    rw [← accounts.dealt c member, takenBy, List.append_assoc]
    exact List.prefix_append _ _
  have out := share_perm accounts.length_eq placed
  have back := entries_perm underway.known
  have whole := eq_of_prefix_of_length begins (by
    rw [out.length_eq, back.length_eq, List.length_map]
    exact enough)
  refine ⟨underway.kept, size ▸ underway.known, ?_, ?_, accounts.length_eq, size ▸ placed, ?_⟩
  · refine back.symm.trans (List.Perm.trans (.of_eq ?_) out)
    exact List.flatMap_congr whole
  · intro i inside
    exact whole i (List.mem_range.2 (size.symm ▸ inside))
  · refine ⟨_, serving.mode, ?_, underway.dealt⟩
    rw [serving.steady.size, size]

/-- The number of deliveries on record. -/
theorem deliveredTo_le (j : Journal) (names : List String) : j.deliveredTo names ≤ j.size :=
  List.countP_le_length

/-- **Everything has been delivered.** Let no worker of a draft have a signal of its own. When a run
of its scenario on a new broker in memory verifies the deliveries, every worker has on record just
its share of the messages. -/
theorem Reachable.delivered {d : Draft} (built : d.build = .ok s)
    (unsignalled : ∀ w ∈ d.workers, w.signal = none)
    (reachable : Reachable (Broker.plan s settings) {} r) (stage : r.stage = .verifying) :
    ∃ entries places, Delivered s r.world.journal entries places := by
  rcases Draft.build_eq_ok built with ⟨crewed, -, address, rfl⟩
  obtain ⟨f, workers⟩ := d.assemble_workers ⟨address, d.mode⟩
  have crewed' : (d.assemble ⟨address, d.mode⟩).workers ≠ [] := by
    rw [workers]
    simpa using crewed
  obtain ⟨entries, log, places, underway⟩ := reachable.underway crewed' [] (by rw [stage]; rfl)
  have roster := reachable.roster
  refine ⟨entries, places, underway.delivered (roster.length_eq (by rw [stage]; rfl)) ?_⟩
  by_cases some : d.messages = []
  · rw [Draft.assemble_messages, some]
    exact Nat.zero_le _
  · obtain ⟨signalled, fresh⟩ := Draft.assemble_of_unsignalled ⟨address, d.mode⟩ unsignalled some
    have carried : d.signals.length ∈
        Scenario.distinctSignals (d.assemble ⟨address, d.mode⟩).workers := by
      obtain ⟨w, member⟩ := List.exists_mem_of_ne_nil _ crewed'
      exact Scenario.mem_distinctSignals.2 ⟨w, member, signalled w member⟩
    calc (d.assemble ⟨address, d.mode⟩).messages.length = d.messages.length := by
          rw [Draft.assemble_messages]
      _ ≤ r.world.journal.deliveredTo _ := reachable.deliveries_of_verifying stage carried fresh
      _ ≤ r.world.journal.size := deliveredTo_le _ _
      _ = entries.length := by
          rw [Journal.size, underway.kept.observed.length_eq]
          simp [Journal.numbered]

/-! ## What the snapshot shows -/

namespace Delivered

variable {j : Journal} {entries : List (Nat × Message)} {places : List Place}

theorem length_eq (delivered : Delivered s j entries places) :
    (entries.map fun e => (s.nameAt e.1, e.2)).length = s.messages.length := by
  have all := delivered.all.length_eq
  rwa [List.length_map] at all ⊢

theorem nameAt_eq {i : Nat} {w : WorkerSpec} (there : s.workers[i]? = some w) :
    s.nameAt i = w.name := by
  unfold Scenario.nameAt
  rw [there]
  rfl

theorem nameAt_inj (distinct : (s.workers.map WorkerSpec.name).Nodup) {i k : Nat}
    (inside : i < s.workers.length) (inside' : k < s.workers.length) :
    s.nameAt i = s.nameAt k ↔ i = k := by
  have named {i : Nat} (inside : i < s.workers.length) :
      (s.workers.map WorkerSpec.name)[i]? = some (s.nameAt i) := by
    rw [List.getElem?_map, List.getElem?_eq_getElem inside, Option.map_some,
      nameAt_eq (List.getElem?_eq_getElem inside)]
  constructor
  · intro same
    apply (List.getElem?_inj (by rwa [List.length_map]) distinct).1
    rw [named inside, named inside', same]
  · rintro rfl
    rfl

/-- The deliveries to the worker at a place are its share of the messages, in their order. -/
theorem observationsFor (delivered : Delivered s j entries places)
    (distinct : (s.workers.map WorkerSpec.name).Nodup) (few : s.messages.length ≤ Word.limit)
    {i : Nat} {w : WorkerSpec} (there : s.workers[i]? = some w) :
    (j.snapshot.observationsFor w.name).map Observation.message =
      share s.messages places (.queue i) := by
  rcases List.getElem?_eq_some_iff.1 there with ⟨inside, -⟩
  rw [delivered.kept.observationsFor_message (delivered.length_eq.symm ▸ few),
    ← delivered.shares i inside, List.filter_map, List.map_map]
  show ((entries.filter _).map Prod.snd) = _
  congr 1
  apply List.filter_congr
  intro e member
  rw [Function.comp_apply, ← nameAt_eq there, Bool.eq_iff_iff, beq_iff_eq, beq_iff_eq]
  exact nameAt_inj distinct (delivered.known e member) inside

theorem observations_eq (delivered : Delivered s j entries places)
    (few : s.messages.length ≤ Word.limit) :
    j.snapshot.observations =
      Journal.numbered (entries.map fun e => (s.nameAt e.1, e.2)) :=
  delivered.kept.observations_eq (delivered.length_eq.symm ▸ few)

/-- Every message has been delivered just as often as it is listed. -/
theorem observations_perm (delivered : Delivered s j entries places)
    (few : s.messages.length ≤ Word.limit) :
    (j.snapshot.observations.map Observation.message).Perm s.messages := by
  rw [delivered.observations_eq few, Journal.numbered_message, List.map_map]
  exact delivered.all

/-- Whoever has been delivered something is one of the workers. -/
theorem worker_known (delivered : Delivered s j entries places)
    (few : s.messages.length ≤ Word.limit) {o : Observation}
    (member : o ∈ j.snapshot.observations) :
    ∃ (i : Nat) (w : WorkerSpec), s.workers[i]? = some w ∧ o.worker = w.name := by
  rw [delivered.observations_eq few] at member
  have there := List.mem_map_of_mem (f := fun o => (o.worker, o.message)) member
  rw [Journal.numbered_delivery] at there
  rcases List.mem_map.1 there with ⟨e, entry, same⟩
  have inside := delivered.known e entry
  refine ⟨e.1, _, List.getElem?_eq_getElem inside, ?_⟩
  rw [← nameAt_eq (List.getElem?_eq_getElem inside)]
  exact (congrArg Prod.fst same).symm

theorem deliveredExactly (delivered : Delivered s j entries places)
    (few : s.messages.length ≤ Word.limit) (distinct : (s.messages.map Message.id).Nodup) :
    s.standard.violationsOf j.snapshot .deliveredExactly = [] := by
  apply Snapshot.deliveryViolations_eq_nil _ distinct
  have ids := (delivered.observations_perm few).map Message.id
  rwa [List.map_map] at ids

end Delivered

end Run

end DeliveryBench
