import DeliveryBench.Proofs.Journal.Comparison

/-!
# Exact delivery and exact counts

A scenario may expect both that its messages are delivered exactly and that the keys occur so many
times. Passing the former check settles the latter: what has been delivered is then a permutation of
what has been published (`Snapshot.message_perm`), and so the only counts that pass are those of the
published messages (`Journal.exact_delivery_settles_the_counts`).

The check of the messages goes by identifiers. Hence the two conditions, that no two published
messages have the same identifier, and that a delivered message with the identifier of a published
one is that message.
-/

namespace DeliveryBench

namespace Snapshot

variable {s : Snapshot} {published : List Message}

/-- If nothing is amiss with the messages, they are the published ones in some order. -/
theorem message_perm (fine : s.deliveryViolations published = [])
    (distinct : (published.map Message.id).Nodup)
    (own : ∀ d ∈ s.deliveries, ∀ m ∈ published, d.2.id = m.id → d.2 = m) :
    (s.observations.map Observation.message).Perm published := by
  obtain ⟨once, ids⟩ := (deliveryViolations_eq_nil_iff_ids s published).1 fine
  have once' : ((s.observations.map Observation.message).map Message.id).Nodup := by
    rwa [List.map_map]
  have own' : ∀ o ∈ s.observations, ∀ m ∈ published, o.id = m.id → o.message = m :=
    fun o member => own _ (List.mem_map_of_mem member)
  apply (List.perm_ext_iff_of_nodup (once'.of_map _) (distinct.of_map _)).2
  intro m
  rw [List.mem_map]
  constructor
  · rintro ⟨o, member, rfl⟩
    obtain ⟨m, known, same⟩ := List.mem_map.1 ((ids o.id).1 (List.mem_map_of_mem member))
    exact own' o member m known same.symm ▸ known
  · intro known
    obtain ⟨o, member, same⟩ := List.mem_map.1 ((ids m.id).2 (List.mem_map_of_mem known))
    exact ⟨o, member, own' o member m known same⟩

theorem countOfKey_of_message_perm (perm : (s.observations.map Observation.message).Perm published)
    (key : String) : s.countOfKey key = published.countP fun m => m.key == some key := by
  rw [countOfKey_eq_countP, ← perm.countP_eq, List.countP_map]
  rfl

end Snapshot

namespace Journal

variable {entries : List Entry} {j : Journal} {published : List Message}

/-- **Exact delivery settles the counts.** Let messages with different identifiers be published, and
let whatever is delivered under the identifier of one of them be that message. If the check of the
messages succeeds, the deliveries are a permutation of the published messages, identifiers, payloads
and keys alike, the journal has as many entries as there are messages, and the check of the keys
succeeds for just those counts that give every key the number of published messages with this key.
-/
theorem exact_delivery_settles_the_counts
    (distinct : (published.map Message.id).Nodup)
    (own : ∀ d ∈ deliveriesIn entries, ∀ m ∈ published, d.2.id = m.id → d.2 = m)
    (read : (writeAll {} entries).2.Rearranged j)
    (delivered : Violation.verdict (j.snapshot.deliveryViolations published) = .ok ()) :
    (j.snapshot.observations.map fun o => (o.id, o.payload, o.key)).Perm
        (published.map fun m => (m.id, m.payload, m.key)) ∧
      j.size = published.length ∧ j.snapshot.size = published.length ∧
      ∀ expected : Counts,
        Violation.verdict (j.snapshot.keyCountMismatches expected) = .ok () ↔
          ∀ key, expected.count key = published.countP fun m => m.key == some key := by
  have shown : j.snapshot.deliveries.Perm (deliveriesIn entries) := deliveries_perm_of_read read
  have perm : (j.snapshot.observations.map Observation.message).Perm published := by
    apply Snapshot.message_perm (Violation.verdict_eq_ok_iff.1 delivered) distinct
    simpa only [shown.mem_iff] using own
  have shownSize : j.snapshot.size = published.length := by
    rw [← perm.length_eq, List.length_map, Snapshot.size]
  have size : j.size = j.snapshot.size := (sortBy_perm _ _).length_eq.symm
  refine ⟨?_, size.trans shownSize, shownSize, ?_⟩
  · have triples := perm.map fun m => (m.id, m.payload, m.key)
    rwa [List.map_map] at triples
  · intro expected
    rw [Violation.verdict_eq_ok_iff, Snapshot.keyCountMismatches_eq_nil_iff]
    simp only [Snapshot.countOfKey_of_message_perm perm]

/-- Three messages with two keys, delivered in another order by two workers. -/
theorem counts_settled_by_three_deliveries :
    let order : Message := ⟨.ofNat 0, "order", some "eu"⟩
    let refund : Message := ⟨.ofNat 1, "refund", some "eu"⟩
    let note : Message := ⟨.ofNat 2, "note", none⟩
    let published := [order, refund, note]
    let entries : List Entry := [.delivery "b" note, .delivery "a" refund, .delivery "b" order,
      .failure "b" order 2 "full"]
    let written := (writeAll {} entries).2
    let j := { written with observed := written.observed.reverse }
    let counts : List (String × Nat) → Except Failure Unit := fun listed =>
      Violation.verdict (j.snapshot.keyCountMismatches ⟨listed⟩)
    (published.map Message.id).Nodup ∧
      (∀ d ∈ deliveriesIn entries, ∀ m ∈ published, d.2.id = m.id → d.2 = m) ∧
      written.Rearranged j ∧
      Violation.verdict (j.snapshot.deliveryViolations published) = .ok () ∧
      (j.snapshot.observations.map fun o => (o.id, o.payload, o.key)).Perm
        (published.map fun m => (m.id, m.payload, m.key)) ∧
      j.size = 3 ∧ counts [("eu", 1)] ≠ .ok () ∧ counts [("eu", 2), ("us", 0)] = .ok () ∧
      ∀ key, Counts.count ⟨[("eu", 2), ("us", 0)]⟩ key =
        published.countP fun m => m.key == some key := by
  intro order refund note published entries written j counts
  have distinct : (published.map Message.id).Nodup := by decide
  have own : ∀ d ∈ deliveriesIn entries, ∀ m ∈ published, d.2.id = m.id → d.2 = m := by decide
  have read : written.Rearranged j := ⟨List.reverse_perm _, .refl _, rfl⟩
  have delivered : Violation.verdict (j.snapshot.deliveryViolations published) = .ok () := by
    decide
  have passed : counts [("eu", 2), ("us", 0)] = .ok () := by decide
  obtain ⟨triples, size, -, settled⟩ :=
    exact_delivery_settles_the_counts distinct own read delivered
  refine ⟨distinct, own, read, delivered, triples, size, ?_, passed, (settled _).1 passed⟩
  intro tooFew
  exact absurd ((settled _).1 tooFew "eu") (by decide)

end Journal

end DeliveryBench
