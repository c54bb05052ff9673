import DeliveryBench.Broker

/-!
The life of a broker as a list of calls.

A `Call` is anything that its users can do to it, the switches for arranged failures included.
`Broker.call` performs one, `Broker.history` keeps every call together with the broker before it
(`Moment`). What a subscription has been sent and what its consumers have taken is read off such a
history (`Moment.published?`, `Moment.received?`), and what a call has put on a queue is the
difference between the queue before and after it (`Moment.placed`).
-/

namespace DeliveryBench

/-- Something done to a broker. -/
inductive Call where
  | subscribe (target : Target)
  | publish (topic : String) (m : Message)
  | receive (ticket : Ticket)
  | unsubscribe (ticket : Ticket)
  /-- The holder of a subscription drops it. -/
  | release (ticket : Ticket)
  | close
  | failAttempt (attempt : Nat)
  | failUnsubscribe (fail : Bool)
  | failPublish (fail : Bool)
deriving DecidableEq

/-- What a call returns. -/
inductive Answer where
  | ticket (result : Except BrokerError Ticket)
  | reception (reception : Reception)
  | result (result : Except BrokerError Unit)
  | silence

namespace Broker

/-- Performs a call. -/
def call (b : Broker) : Call → Answer × Broker
  | .subscribe target => (.ticket (b.subscribe target).1, (b.subscribe target).2)
  | .publish topic m => (.result (b.publish topic m).1, (b.publish topic m).2)
  | .receive ticket => (.reception (b.receive ticket).1, (b.receive ticket).2)
  | .unsubscribe ticket => (.result (b.unsubscribe ticket).1, (b.unsubscribe ticket).2)
  | .release ticket => (.silence, b.release ticket)
  | .close => (.result b.close.1, b.close.2)
  | .failAttempt attempt => (.silence, b.failAttempt attempt)
  | .failUnsubscribe fail => (.silence, b.failUnsubscribe fail)
  | .failPublish fail => (.silence, b.failPublish fail)

/-- The broker after some calls. -/
def after (b : Broker) (calls : List Call) : Broker :=
  calls.foldl (fun b c => (b.call c).2) b

/-- The messages on a queue of the subscription at an address. -/
def inbox (b : Broker) (address : Address) (queue : Nat) : List Message :=
  match b.group? address with
  | none => []
  | some g => g.inbox queue

/-- The consumers attached at an address. -/
def attachedAt (b : Broker) (address : Address) : List Consumer :=
  match b.group? address with
  | none => []
  | some g => g.consumers

end Broker

/-- A call, with the broker on which it is performed. -/
structure Moment where
  before : Broker
  call : Call

namespace Moment

def answer (x : Moment) : Answer :=
  (x.before.call x.call).1

def after (x : Moment) : Broker :=
  (x.before.call x.call).2

/-- The message that a call publishes for the subscription at an address, if there is such a
subscription by then and the call succeeds. -/
def published? (x : Moment) (address : Address) : Option Message :=
  match x.call, x.answer with
  | .publish topic m, .result (.ok ()) =>
    if topic = address.topic ∧ (x.before.group? address).isSome then some m else none
  | _, _ => none

/-- The message that a call takes from a queue of the subscription at an address. -/
def received? (x : Moment) (address : Address) (queue : Nat) : Option Message :=
  match x.call, x.answer with
  | .receive ticket, .reception (.message m) =>
    if ticket.address = address ∧ ticket.queue = queue then some m else none
  | _, _ => none

/-- What a poll on a queue of the subscription at an address answers, if the call is one. -/
def polled? (x : Moment) (address : Address) (queue : Nat) : Option Reception :=
  match x.call, x.answer with
  | .receive ticket, .reception reception =>
    if ticket.address = address ∧ ticket.queue = queue then some reception else none
  | _, _ => none

/-- The messages that a call puts on a queue of the subscription at an address. -/
def placed (x : Moment) (address : Address) (queue : Nat) : List Message :=
  (x.after.inbox address queue).drop (x.before.inbox address queue).length

end Moment

namespace Broker

/-- Some calls, each with the broker that it meets. -/
def history : Broker → List Call → List Moment
  | _, [] => []
  | b, c :: rest => ⟨b, c⟩ :: history (b.call c).2 rest

/-- What is published for the subscription at an address by some calls, from the moment on at which
the subscription is there. -/
def publishedFor (b : Broker) (address : Address) (calls : List Call) : List Message :=
  (b.history calls).filterMap fun x => x.published? address

/-- What is taken from a queue of the subscription at an address by some calls. -/
def receivedBy (b : Broker) (address : Address) (queue : Nat) (calls : List Call) : List Message :=
  (b.history calls).filterMap fun x => x.received? address queue

/-- What the polls on a queue of the subscription at an address answer, in order. -/
def pollsOf (b : Broker) (address : Address) (queue : Nat) (calls : List Call) : List Reception :=
  (b.history calls).filterMap fun x => x.polled? address queue

end Broker

end DeliveryBench
