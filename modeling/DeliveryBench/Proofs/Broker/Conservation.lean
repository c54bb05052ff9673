import DeliveryBench.Proofs.Broker.Accounts
import DeliveryBench.Proofs.Broker.Effect

/-!
# Nothing is lost on the way to a subscription

The main statement is `every_message_has_one_place`: after any calls that do not close the broker,
the accounts of every group balance (`Group.Accounts`). Its log is what has been published for the
subscription since it was there, so a message that came too early, or whose publish failed, is in
no place at all.

The induction is on the calls. Its invariant `Tallied` also covers the time before the group
exists, when nothing has been published for it and nothing received from it.
-/

namespace DeliveryBench

/-- The accounts of the group at an address balance, if it is there yet. -/
def Tallied (group? : Option Group) (received : Nat → List Message) (log : List Message) : Prop :=
  match group? with
  | none => log = [] ∧ received = fun _ => []
  | some g => ∃ places, g.Accounts received log places

/-- The group that a subscribe meets or makes is tallied as soon as it is there. -/
theorem Tallied.getD {group? : Option Group} {received : Nat → List Message} {log : List Message}
    (tallied : Tallied group? received log) (mode : Mode) :
    ∃ places, (group?.getD { mode := mode }).Accounts received log places := by
  cases group? with
  | none =>
      obtain ⟨rfl, rfl⟩ := tallied
      exact ⟨[], Group.accounts_new mode⟩
  | some g => exact tallied

namespace Moment

variable {x : Moment} {address : Address} {received : Nat → List Message} {log : List Message}

/-- The message that a poll at an address takes from one of its queues. -/
theorem received?_of_receive {ticket : Ticket} {reception : Reception}
    (call : x.call = .receive ticket) (answer : x.answer = .reception reception)
    (here : ticket.address = address) (number : Nat) :
    (x.received? address number).toList =
      if number = ticket.queue then Group.handedOut reception else [] := by
  unfold received?
  rw [call, answer]
  cases reception <;> simp [Group.handedOut, here, eq_comm]
  split <;> rfl

/-- One call keeps the tally, as long as it does not close the broker. -/
theorem tallied_after (tallied : Tallied (x.before.group? address) received log)
    (orderly : x.before.OrderlyAt address) (stays : x.call ≠ .close) :
    Tallied (x.after.group? address)
      (fun number => received number ++ (x.received? address number).toList)
      (log ++ (x.published? address).toList) := by
  have quiet {g : Option Group} (tallied : Tallied g received log)
      (noPublish : x.published? address = none)
      (noReceive : ∀ number, x.received? address number = none) :
      Tallied g (fun number => received number ++ (x.received? address number).toList)
        (log ++ (x.published? address).toList) := by
    simpa [noPublish, noReceive] using tallied
  have effect := x.effect address
  unfold Broker.OrderlyAt at orderly
  generalize before : x.before.group? address = group? at effect tallied orderly
  generalize x.after.group? address = next at effect ⊢
  cases effect with
  | untouched noPublish noReceive => exact quiet tallied noPublish noReceive
  | @joined _ old mode id call _ _ oldEq _ =>
      have ordered := (Group.orderly_getD orderly mode).switchTo mode
      obtain ⟨places, accounts⟩ := tallied.getD mode
      rw [← oldEq] at ordered accounts
      have population : old.population = (old.switchTo mode).population :=
        (Group.switchTo_population old mode).symm
      refine quiet ⟨_, (accounts.switchTo mode).attach ordered rfl population rfl⟩ ?_ ?_
      · exact published?_eq_none (by simp [call])
      · exact received?_eq_none (by simp [call])
  | @dealt g m call _ result =>
      obtain ⟨places, accounts⟩ := tallied
      obtain ⟨place, dealt⟩ := accounts.dispatch (orderly g rfl) m
      have published : x.published? address = some m := by
        simp [published?, call, result, before]
      have noReceive : ∀ number, x.received? address number = none :=
        received?_eq_none (by simp [call])
      simp only [published, noReceive, Option.toList_some, Option.toList_none, List.append_nil]
      exact ⟨_, dealt⟩
  | @polled g ticket call here answer =>
      obtain ⟨places, accounts⟩ := tallied
      have noPublish : x.published? address = none := published?_eq_none (by simp [call])
      rw [noPublish, Option.toList_none, List.append_nil]
      simp only [received?_of_receive call answer here]
      exact ⟨places, accounts.receive (orderly g rfl) _⟩
  | @left g ticket call _ _ =>
      obtain ⟨places, accounts⟩ := tallied
      refine quiet ⟨places, accounts.detach _⟩ ?_ ?_
      · exact published?_eq_none (by simp [call])
      · exact received?_eq_none (by simp [call])
  | @dropped g ticket call _ =>
      obtain ⟨places, accounts⟩ := tallied
      refine quiet ⟨places, accounts.release _⟩ ?_ ?_
      · exact published?_eq_none (by simp [call])
      · exact received?_eq_none (by simp [call])
  | shut call => exact absurd call stays

end Moment

namespace Broker

/-- Any number of calls keep the tally. -/
theorem tallied_after {b : Broker} {address : Address} {received : Nat → List Message}
    {log : List Message} (calls : List Call)
    (tallied : Tallied (b.group? address) received log) (orderly : b.OrderlyAt address)
    (stays : .close ∉ calls) :
    Tallied ((b.after calls).group? address)
      (fun number => received number ++ b.receivedBy address number calls)
      (log ++ b.publishedFor address calls) := by
  induction calls generalizing b received log with
  | nil => simpa [after, receivedBy, publishedFor, history] using tallied
  | cons call rest ih =>
      rw [List.mem_cons, not_or] at stays
      have step := Moment.tallied_after (x := ⟨b, call⟩) tallied orderly (Ne.symm stays.1)
      have later := ih step (Moment.orderlyAt_after orderly) stays.2
      simp only [List.append_assoc] at later
      have cons {α : Type} (f : Moment → Option α) :
          ((b.history (call :: rest)).filterMap f) =
            (f ⟨b, call⟩).toList ++ ((b.call call).2.history rest).filterMap f := by
        rw [history, List.filterMap_cons]
        cases f ⟨b, call⟩ <;> rfl
      simp only [receivedBy, publishedFor, cons]
      exact later

/-- **Every message has one place.** After any calls that do not close the broker, the queues of a
group bear different numbers, and its accounts balance: every position of what has been published
for it has exactly one place, and the places hold what was sent to them in the order of
publishing, received, queued or waiting. -/
theorem every_message_has_one_place (calls : List Call) (address : Address) (g : Group)
    (stays : .close ∉ calls) (there : (Broker.after {} calls).group? address = some g) :
    (g.members.map Consumer.queue).Nodup ∧
      ∃ places, g.Accounts (fun number => Broker.receivedBy {} address number calls)
        (Broker.publishedFor {} address calls) places := by
  have start : Tallied ((({} : Broker)).group? address) (fun _ => []) [] := ⟨rfl, rfl⟩
  have final := tallied_after calls start (orderlyAt_new address) stays
  rw [there] at final
  exact ⟨(orderlyAt_after calls (orderlyAt_new address) g there).queues, final⟩

/-- Two consumers share four messages; the second is dropped with one on its queue, the first leaves
with two on its queue, and the fifth message has to wait. -/
theorem one_place_each_after_everybody_left :
    let here : Address := ⟨"orders", "audit"⟩
    let note := fun n => (⟨.ofNat n, "note", none⟩ : Message)
    let calls : List Call := [.publish "orders" (note 0), .subscribe ⟨here, .shared⟩,
      .subscribe ⟨here, .shared⟩, .publish "orders" (note 1), .publish "orders" (note 2),
      .publish "orders" (note 3), .receive ⟨here, 0, 0⟩, .release ⟨here, 1, 1⟩,
      .publish "orders" (note 4), .unsubscribe ⟨here, 0, 0⟩, .publish "orders" (note 5)]
    .close ∉ calls ∧ ∃ g, (Broker.after {} calls).group? here = some g ∧
      g.queues = [(1, [note 2]), (0, [note 3, note 4])] ∧ g.backlog = [note 5] ∧
      (g.members.map Consumer.queue).Nodup ∧
      ∃ places, g.Accounts (fun number => Broker.receivedBy {} here number calls)
        (Broker.publishedFor {} here calls) places :=
  ⟨by decide, _, rfl, by decide, by decide,
    every_message_has_one_place _ _ _ (by decide) rfl⟩

end Broker

end DeliveryBench
