import DeliveryBench.Broker.History

/-!
What one subscription sees of the calls to a broker.

A broker has one counter for all its consumers, so the number of a consumer depends on what goes on
elsewhere. Its queue does not: queues are counted for each subscription. `Call.byQueue` and
`Answer.byQueue` put the queue in the place of the number. What is asked of a subscription
(`Broker.requests`) and what it answers (`Broker.dealings`) is written down in this way.
-/

namespace DeliveryBench

/-- The ticket with the queue in the place of the number. -/
def Ticket.byQueue (ticket : Ticket) : Ticket :=
  { ticket with consumer := ticket.queue }

namespace Call

/-- Whether a call asks something of the subscription at an address. -/
def concerns (address : Address) : Call → Bool
  | .subscribe target => target.toAddress == address
  | .publish topic _ => topic == address.topic
  | .receive ticket | .unsubscribe ticket | .release ticket => ticket.address == address
  | .close | .failAttempt _ | .failUnsubscribe _ | .failPublish _ => false

/-- The ticket that a call shows. -/
def ticket? : Call → Option Ticket
  | .receive ticket | .unsubscribe ticket | .release ticket => some ticket
  | _ => none

/-- Whether a call closes the broker or makes other calls fail. -/
def isDisruptive : Call → Bool
  | .close | .failAttempt _ => true
  | .failUnsubscribe fail | .failPublish fail => fail
  | _ => false

/-- The same call, of a consumer that is known by its queue. -/
def byQueue : Call → Call
  | .receive ticket => .receive ticket.byQueue
  | .unsubscribe ticket => .unsubscribe ticket.byQueue
  | .release ticket => .release ticket.byQueue
  | call => call

end Call

/-- The same answer, about a consumer that is known by its queue. -/
def Answer.byQueue : Answer → Answer
  | .ticket join => .ticket (join.map Ticket.byQueue)
  | answer => answer

namespace Broker

/-- What some calls ask of the subscription at an address. -/
def requests (address : Address) (calls : List Call) : List Call :=
  (calls.filter (Call.concerns address)).map Call.byQueue

/-- What some calls ask of the subscription at an address, with the answers. -/
def dealings (b : Broker) (address : Address) (calls : List Call) : List (Call × Answer) :=
  ((b.history calls).filter fun x => x.call.concerns address).map fun x =>
    (x.call.byQueue, x.answer.byQueue)

/-- The tickets that a new broker hands out in some calls. -/
def issued (calls : List Call) : List Ticket :=
  (history {} calls).filterMap fun x =>
    match x.answer with
    | .ticket (.ok ticket) => some ticket
    | _ => none

/-- A new broker is called without disruption by those who use the subscription at an address with
tickets that they have been given. -/
structure Undisturbed (address : Address) (calls : List Call) : Prop where
  quiet : ∀ call ∈ calls, call.isDisruptive = false
  /-- Every ticket that is shown there has been handed out by an earlier call. -/
  genuine : ∀ (i : Nat) (inside : i < calls.length), ∀ ticket ∈ calls[i].ticket?.toList,
    ticket.address = address → ticket ∈ issued (calls.take i)

instance (address : Address) (calls : List Call) : Decidable (Undisturbed address calls) :=
  have genuine : Decidable (∀ (i : Nat) (inside : i < calls.length),
      ∀ ticket ∈ calls[i].ticket?.toList, ticket.address = address →
        ticket ∈ issued (calls.take i)) := inferInstance
  decidable_of_iff (_ ∧ _) ⟨fun both => ⟨both.1, both.2⟩, fun it => ⟨it.quiet, it.genuine⟩⟩

end Broker

end DeliveryBench
