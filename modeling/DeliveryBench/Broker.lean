import DeliveryBench.Broker.Group

/-!
A broker that lives in memory: one group per address, counters, and switches that make its calls
fail on purpose.

Every operation is a function from the broker to its result and the broker afterwards. A call that
fails changes nothing but, for `subscribe`, the number of attempts. Closing is final: the groups
are shut, no further call to `subscribe` or `publish` succeeds, and what is on the queues can still
be received.

Caveat: the three counters are plain numbers here. Counters of 64 bits have the same values until
the 2 ^ 64th call of the kind that they count, and go on from zero then.
-/

namespace DeliveryBench

/-- What has been arranged to fail. -/
structure Faults where
  /-- Numbers of subscribe attempts, counted from 1. -/
  attempts : List Nat := []
  unsubscribe : Bool := false
  publish : Bool := false
deriving DecidableEq

/-- The state of a broker. -/
structure Broker where
  groups : List (Address × Group) := []
  /-- The number that the next consumer gets, a 64-bit word. -/
  nextConsumer : ConsumerId := 0
  /-- Calls to `subscribe` so far, successful or not; a number without a bound. -/
  attempts : Nat := 0
  /-- Successful calls to `unsubscribe`; a number without a bound. -/
  released : Nat := 0
  /-- Successful calls to `publish`; a number without a bound. -/
  published : Nat := 0
  isClosed : Bool := false
  faults : Faults := {}
deriving DecidableEq

namespace Broker

/-! ## Groups -/

/-- The group at an address. -/
def group? (b : Broker) (address : Address) : Option Group :=
  b.groups.lookup address

/-- Changes the group at an address, if there is one. -/
def adjustGroup (b : Broker) (address : Address) (f : Group → Group) : Broker :=
  { b with groups := b.groups.map fun entry =>
      if entry.1 = address then (entry.1, f entry.2) else entry }

/-- Makes sure that there is a group at an address. -/
def withGroup (b : Broker) (target : Target) : Broker :=
  match b.group? target.toAddress with
  | some _ => b
  | none => { b with groups := b.groups ++ [(target.toAddress, { mode := target.mode })] }

/-- Consumers that have ever attached at an address. -/
def population (b : Broker) (address : Address) : Nat :=
  match b.group? address with
  | none => 0
  | some g => g.population

/-- Consumers attached at an address. -/
def activeConsumers (b : Broker) (address : Address) : Nat :=
  match b.group? address with
  | none => 0
  | some g => g.consumers.length

/-- Messages that wait at an address for somebody to attach. -/
def backlog (b : Broker) (address : Address) : Nat :=
  match b.group? address with
  | none => 0
  | some g => g.backlog.length

/-- The messages that may still be received, on queues and backlogs. -/
def held (b : Broker) : List Message :=
  b.groups.flatMap fun entry => entry.2.backlog ++ entry.2.consumers.flatMap Consumer.inbox

/-! ## Arranged failures -/

/-- Makes the subscribe attempt with this number fail. -/
def failAttempt (b : Broker) (attempt : Nat) : Broker :=
  { b with faults := { b.faults with attempts := attempt :: b.faults.attempts } }

def failUnsubscribe (b : Broker) (fail : Bool) : Broker :=
  { b with faults := { b.faults with unsubscribe := fail } }

def failPublish (b : Broker) (fail : Bool) : Broker :=
  { b with faults := { b.faults with publish := fail } }

/-! ## Calls -/

/-- The reason for which a subscribe with this attempt number is turned away. -/
def refusal? (b : Broker) (attempt : Nat) (target : Target) : Option BrokerError :=
  if b.isClosed then some .closed
  else if b.faults.attempts.contains attempt then
    some (.subscribeFailed target.toAddress
      ("injected failure on attempt " ++ toString attempt))
  else
    match b.group? target.toAddress with
    | none => none
    | some g =>
      if g.refuses target.mode then
        some (.modeMismatch target.toAddress g.mode target.mode)
      else none

/-- Attaches a new consumer. -/
def subscribe (b : Broker) (target : Target) : Except BrokerError Ticket × Broker :=
  let counted := { b with attempts := b.attempts + 1 }
  match b.refusal? counted.attempts target with
  | some e => (.error e, counted)
  | none =>
    let id := b.nextConsumer
    let queue := b.population target.toAddress
    let joined := (counted.withGroup target).adjustGroup target.toAddress fun g =>
      (g.switchTo target.mode).attach { id, queue, mode := target.mode }
    (.ok ⟨target.toAddress, id, queue⟩, { joined with nextConsumer := Word.wrap (id + 1) })

/-- Hands a message to every subscription of a topic. -/
def publish (b : Broker) (topic : String) (m : Message) : Except BrokerError Unit × Broker :=
  if b.isClosed then (.error .closed, b)
  else if b.faults.publish then (.error (.publishFailed topic "injected failure"), b)
  else
    (.ok (), { b with
      groups := b.groups.map fun entry =>
        if entry.1.topic = topic then (entry.1, entry.2.dispatch m) else entry
      published := b.published + 1 })

/-- Polls a subscription. -/
def receive (b : Broker) (ticket : Ticket) : Reception × Broker :=
  match b.group? ticket.address with
  | none => (.ended, b)
  | some g =>
    let (reception, _) := g.receive ticket.queue
    (reception, b.adjustGroup ticket.address fun g => (g.receive ticket.queue).2)

/-- Polls a subscription up to so many times, until a poll has no message; the answers of all
polls. -/
def poll : Nat → Broker → Ticket → List Reception × Broker
  | 0, b, _ => ([], b)
  | times + 1, b, ticket =>
    match b.receive ticket with
    | (.message m, b) =>
      let (rest, b) := poll times b ticket
      (.message m :: rest, b)
    | (other, b) => ([other], b)

/-- The number of messages on a subscription's queue. -/
def queued (b : Broker) (ticket : Ticket) : Nat :=
  match (b.group? ticket.address).bind fun g => g.consumer? ticket.queue with
  | none => 0
  | some c => c.inbox.length

/-- Receives everything that a subscription has, and the poll after it. -/
def drain (b : Broker) (ticket : Ticket) : List Reception × Broker :=
  b.poll (b.queued ticket + 1) ticket

/-- Detaches a consumer; its holder can still receive what it already has. -/
def unsubscribe (b : Broker) (ticket : Ticket) : Except BrokerError Unit × Broker :=
  if b.faults.unsubscribe then
    (.error (.unsubscribeFailed ticket.address.subscription "injected failure"), b)
  else
    (.ok (), { b.adjustGroup ticket.address fun g => g.detach ticket.consumer with
      released := b.released + 1 })

/-- The holder of a subscription drops it without unsubscribing. -/
def release (b : Broker) (ticket : Ticket) : Broker :=
  b.adjustGroup ticket.address fun g => g.release ticket.queue

/-- Closes the broker for good. -/
def close (b : Broker) : Except BrokerError Unit × Broker :=
  if b.isClosed then (.ok (), b)
  else
    (.ok (), { b with
      groups := b.groups.map fun entry => (entry.1, entry.2.shut)
      isClosed := true })

end Broker

end DeliveryBench
