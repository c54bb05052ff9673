import DeliveryBench.Scenario.Verdict

/-!
What expectations mean, said of the deliveries themselves: who was delivered what, in any order and
without numbers. `Standard.violationsOf` is how they are checked.
-/

namespace DeliveryBench.Standard

/-- Whether some deliveries are as an expectation says. -/
def Meets (standard : Standard) (deliveries : List (String × Message)) : Expectation → Prop
  | .keyAffinity =>
    ∀ d ∈ deliveries, ∀ d' ∈ deliveries, ∀ key, d.2.key = some key → d'.2.key = some key →
      d.1 = d'.1
  | .countPerKey counts =>
    ∀ key, counts.count key = deliveries.countP fun d => d.2.key == some key
  | .countPerWorker counts =>
    ∀ worker, counts.count worker = deliveries.countP fun d => d.1 == worker
  | .deliveredExactly =>
    (∀ m ∈ standard.messages, (deliveries.countP fun d => d.2.id == m.id) = 1) ∧
      ∀ d ∈ deliveries, d.2.id ∈ standard.messages.map Message.id
  | .expectedPayloads =>
    ∀ worker wanted, standard.payloads.get? worker = some wanted →
      ((deliveries.filter fun d => d.1 == worker).map fun d => d.2.payload).Perm wanted

/-- Whether some deliveries are as all expectations say. -/
def MeetsAll (standard : Standard) (deliveries : List (String × Message)) : Prop :=
  ∀ e ∈ standard.expectations, standard.Meets deliveries e

end DeliveryBench.Standard
