import DeliveryBench.Journal.History
import DeliveryBench.Proofs.Journal.Ledger
import Mathlib.Data.List.Nodup

/-!
# The shards put together again

Whatever is written into a journal by any number of workers, reading it shows one list of deliveries
in the order in which they have been written, with the numbers 0, 1, 2, …, and the failures in the
order of their deliveries (`journal_reads_as_one_log`). The order of the shards does not matter:
`Keeps` and `Blames` speak of what they hold in any order (`Keeps.rearranged`, `Blames.rearranged`),
and since the numbers are different, there is only one way to sort by them.

Caveat: failures are put in the order of the numbers that they bear. Nothing makes sure that a
number is that of a delivery; this is up to those who write (`Accountable`).
-/

namespace DeliveryBench

namespace Journal

variable {j j' : Journal} {entries : List Entry} {before : List Delivery}
  {failures : List HandlerFailure}

/-! ## What the shards hold -/

/-- The journal holds these failures. -/
def Blames (j : Journal) (failures : List HandlerFailure) : Prop :=
  (Shards.all j.failed).Perm failures

theorem blames_new : Blames {} [] :=
  List.Perm.refl []

theorem Keeps.rearranged (keeps : j.Keeps before) (rearranged : j.Rearranged j') :
    j'.Keeps before where
  next := rearranged.next.trans keeps.next
  observed := (rearranged.observed.flatMap_right Prod.snd).trans keeps.observed

theorem Blames.rearranged (blames : j.Blames failures) (rearranged : j.Rearranged j') :
    j'.Blames failures :=
  (rearranged.failed.flatMap_right Prod.snd).trans blames

theorem Keeps.writeAll (keeps : j.Keeps before) (entries : List Entry) :
    (j.writeAll entries).2.Keeps (before ++ deliveriesIn entries) := by
  induction entries generalizing j before with
  | nil =>
      rw [deliveriesIn, List.filterMap_nil, List.append_nil]
      exact keeps
  | cons entry rest ih =>
      cases entry with
      | delivery worker m =>
          have later := ih (keeps.record worker m)
          rw [List.append_assoc] at later
          exact later
      | failure worker m sequence reason => exact ih (keeps.recordFailure worker m sequence reason)

theorem Blames.writeAll (blames : j.Blames failures) (entries : List Entry) :
    (j.writeAll entries).2.Blames (failures ++ failuresIn entries) := by
  induction entries generalizing j failures with
  | nil =>
      rw [failuresIn, List.filterMap_nil, List.append_nil]
      exact blames
  | cons entry rest ih =>
      cases entry with
      | delivery worker m => exact ih (j := (j.record worker m).2) blames
      | failure worker m sequence reason =>
          have added : (j.recordFailure worker m sequence reason).Blames
              (failures ++ [⟨worker, m.id, m.payload, reason, sequence⟩]) :=
            (Shards.append_perm _ _ _).trans (blames.append_right _)
          have later := ih added
          rw [List.append_assoc] at later
          exact later

/-- Deliveries get consecutive numbers. -/
theorem Keeps.numbers (keeps : j.Keeps before)
    (few : before.length + (deliveriesIn entries).length ≤ Word.limit) :
    (j.writeAll entries).1 = List.range' before.length (deliveriesIn entries).length := by
  induction entries generalizing j before with
  | nil => rfl
  | cons entry rest ih =>
      cases entry with
      | delivery worker m =>
          have more : deliveriesIn (.delivery worker m :: rest) =
              (worker, m) :: deliveriesIn rest := rfl
          rw [more, List.length_cons] at few ⊢
          have longer : (before ++ [(worker, m)]).length = before.length + 1 :=
            List.length_append
          have later := ih (keeps.record worker m) (by omega)
          have number : (j.record worker m).1 = before.length := by
            show j.next = _
            rw [keeps.next, Word.wrap_of_lt (by omega)]
          show (j.record worker m).1 :: ((j.record worker m).2.writeAll rest).1 = _
          rw [number, later, longer, List.range'_succ]
      | failure worker m sequence reason =>
          exact ih (keeps.recordFailure worker m sequence reason) few

/-! ## What is shown -/

/-- Words number the deliveries as their places do. -/
theorem numbered_eq_transcript (few : (deliveriesIn entries).length ≤ Word.limit) :
    numbered (deliveriesIn entries) = transcript entries := by
  apply List.ext_getElem?
  intro i
  rw [numbered_getElem?, transcript, List.getElem?_mapIdx]
  cases there : (deliveriesIn entries)[i]? with
  | none => rfl
  | some d =>
      have inside := (List.getElem?_eq_some_iff.1 there).1
      rw [Option.map_some, Option.map_some, Word.wrap_of_lt (by omega)]

theorem transcript_length (entries : List Entry) :
    (transcript entries).length = (deliveriesIn entries).length :=
  List.length_mapIdx

theorem transcript_pairwise (entries : List Entry) :
    (transcript entries).Pairwise fun a b => a.sequence < b.sequence := by
  rw [List.pairwise_iff_getElem]
  intro i k inside inside' before
  simpa [transcript] using before

theorem failuresByDelivery_pairwise (entries : List Entry) :
    (failuresByDelivery entries).Pairwise fun a b => a.sequence < b.sequence := by
  unfold failuresByDelivery
  rw [List.pairwise_filterMap]
  apply (transcript_pairwise entries).imp
  intro a b before f found g found'
  have number : (f.sequence == a.sequence) = true :=
    List.find?_some (p := fun f : HandlerFailure => f.sequence == a.sequence) found
  have number' : (g.sequence == b.sequence) = true :=
    List.find?_some (p := fun g : HandlerFailure => g.sequence == b.sequence) found'
  rw [eq_of_beq number, eq_of_beq number']
  exact before

/-- Where every failure is accounted for, going through the deliveries finds each of them. -/
theorem failuresByDelivery_perm (accountable : Accountable entries) :
    (failuresByDelivery entries).Perm (failuresIn entries) := by
  have once : (failuresByDelivery entries).Nodup := by
    apply (failuresByDelivery_pairwise entries).imp
    rintro f g before rfl
    exact Nat.lt_irrefl _ before
  apply (List.perm_ext_iff_of_nodup once (.of_map _ accountable.once)).2
  intro f
  unfold failuresByDelivery
  rw [List.mem_filterMap]
  constructor
  · rintro ⟨o, -, found⟩
    exact List.mem_of_find?_eq_some found
  · intro written
    obtain ⟨o, delivered, number, -⟩ := accountable.own f written
    refine ⟨o, delivered, ?_⟩
    exact (find?_eq_some_iff_of_nodup accountable.once).2 ⟨written, number.symm⟩

theorem Blames.handlerFailures_perm (blames : j.Blames failures) :
    j.handlerFailures.Perm failures :=
  (sortBy_perm _ _).trans blames

/-- The first failure that is shown bears the least number. -/
theorem Blames.exists_first (blames : j.Blames failures) (some : failures ≠ []) :
    ∃ f rest, j.handlerFailures = f :: rest ∧ f ∈ failures ∧
      ∀ g ∈ failures, f.sequence ≤ g.sequence := by
  have perm := blames.handlerFailures_perm
  have ordered : j.handlerFailures.Pairwise fun f g => f.sequence ≤ g.sequence :=
    pairwise_sortBy HandlerFailure.sequence _
  cases shown : j.handlerFailures with
  | nil =>
      rw [shown] at perm
      exact absurd perm.nil_eq.symm some
  | cons f rest =>
      rw [shown] at perm ordered
      refine ⟨f, rest, rfl, perm.subset List.mem_cons_self, ?_⟩
      intro g member
      rcases List.mem_cons.1 (perm.mem_iff.2 member) with rfl | later
      · exact Nat.le_refl _
      · exact (List.pairwise_cons.1 ordered).1 g later

theorem Blames.handlerFailures_eq (blames : j.Blames (failuresIn entries))
    (accountable : Accountable entries) : j.handlerFailures = failuresByDelivery entries :=
  eq_of_perm_of_ascending
    (blames.handlerFailures_perm.trans (failuresByDelivery_perm accountable).symm)
    (pairwise_sortBy HandlerFailure.sequence _) (failuresByDelivery_pairwise entries)

theorem transcript_delivery (entries : List Entry) :
    (transcript entries).map (fun o => (o.worker, o.message)) = deliveriesIn entries := by
  apply List.ext_getElem?
  intro i
  rw [List.getElem?_map, transcript, List.getElem?_mapIdx]
  cases (deliveriesIn entries)[i]? <;> rfl

theorem payloads_of_transcript (entries : List Entry) (worker : String) :
    ((transcript entries).filter fun o => o.worker == worker).map Observation.payload =
      ((deliveriesIn entries).filter fun d => d.1 == worker).map fun d => d.2.payload := by
  rw [← transcript_delivery, List.filter_map, List.map_map]
  rfl

/-- **A journal reads as one log.** Whatever is written, in whatever order the shards are kept: the
deliveries are numbered as they come; the snapshot shows them as they came, with these numbers, and
for each worker its part of them; and as long as failures are recorded under the numbers of their
deliveries, once each, all of them are shown in the order of the deliveries. -/
theorem journal_reads_as_one_log (entries : List Entry)
    (few : (deliveriesIn entries).length ≤ Word.limit)
    (read : (writeAll {} entries).2.Rearranged j) :
    (writeAll {} entries).1 = List.range (deliveriesIn entries).length ∧
      j.snapshot.observations = transcript entries ∧
      (∀ worker, j.snapshot.observationsFor worker =
        (transcript entries).filter fun o => o.worker == worker) ∧
      (∀ worker, j.snapshot.payloadsFor worker =
        ((deliveriesIn entries).filter fun d => d.1 == worker).map fun d => d.2.payload) ∧
      j.size = (deliveriesIn entries).length ∧ j.snapshot.size = j.size ∧
      (Accountable entries →
        j.handlerFailures = failuresByDelivery entries ∧
          j.handlerFailures.Perm (failuresIn entries)) := by
  have keeps : j.Keeps (deliveriesIn entries) := (keeps_new.writeAll entries).rearranged read
  have blames : j.Blames (failuresIn entries) :=
    (blames_new.writeAll entries).rearranged read
  have shown : j.observations = transcript entries :=
    (keeps.observations_eq few).trans (numbered_eq_transcript few)
  have size : j.size = (deliveriesIn entries).length := by
    rw [← transcript_length, ← shown]
    exact (length_sortBy _ _).symm
  have part (worker : String) : j.snapshot.observationsFor worker =
      (transcript entries).filter fun o => o.worker == worker := by
    rw [← shown]
    rfl
  refine ⟨?_, shown, part, ?_, size, length_sortBy _ _, ?_⟩
  · rw [keeps_new.numbers (by simpa using few)]
    exact List.range_eq_range'.symm
  · intro worker
    rw [Snapshot.payloadsFor, part, payloads_of_transcript]
  · intro accountable
    exact ⟨blames.handlerFailures_eq accountable, blames.handlerFailures_perm⟩

/-- Two workers, whose shards are read the other way round and whose failures come in late. -/
theorem log_of_two_workers :
    let note := fun n text => (⟨.ofNat n, text, none⟩ : Message)
    let entries : List Entry := [.delivery "w1" (note 0 "a"), .delivery "w2" (note 1 "b"),
      .failure "w2" (note 1 "b") 1 "full", .delivery "w1" (note 2 "c"),
      .failure "w1" (note 2 "c") 2 "lost", .failure "w1" (note 0 "a") 0 "slow"]
    let written := (writeAll {} entries).2
    let j := { written with observed := written.observed.reverse, failed := written.failed.reverse }
    (deliveriesIn entries).length ≤ Word.limit ∧ written.Rearranged j ∧ Accountable entries ∧
      (writeAll {} entries).1 = [0, 1, 2] ∧ j.size = 3 ∧
      j.snapshot.observations.map Observation.worker = ["w1", "w2", "w1"] ∧
      j.snapshot.payloadsFor "w1" = ["a", "c"] ∧
      j.handlerFailures.map HandlerFailure.reason = ["slow", "full", "lost"] := by
  intro note entries written j
  have few : (deliveriesIn entries).length ≤ Word.limit := by decide
  have read : written.Rearranged j :=
    ⟨List.reverse_perm _, List.reverse_perm _, rfl⟩
  have accountable : Accountable entries := ⟨by decide, by decide⟩
  obtain ⟨numbers, shown, -, payloads, size, -, failures⟩ :=
    journal_reads_as_one_log entries few read
  refine ⟨few, read, accountable, numbers, size, ?_, (payloads "w1").trans (by decide), ?_⟩
  · rw [shown]
    decide
  · rw [(failures accountable).1]
    decide

end Journal

end DeliveryBench
