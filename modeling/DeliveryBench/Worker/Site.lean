import DeliveryBench.Broker.History
import DeliveryBench.Worker.Crew
import DeliveryBench.Worker.Life

/-!
Handles that come and go around one broker in memory.

A `Site` is the world at a moment, with all handles that have been made so far. `Site.happen` is what
one event makes of it: a handle is made and started, told to stop or done with stopping, a delivery
loop takes a step or is aborted, somebody publishes or arranges for a subscribe or a publish to fail.
Events of different handles come in any order (`Site.Leads`).

Starting and stopping several workers are sequences of such events with pauses, in which everything
may happen but what whoever manages the workers does himself (`Site.Pauses`): `Site.StartsAll` makes
one handle after the other, and `Site.StopsAll` stops one after the other, each of which may have to
be waited for.
-/

namespace DeliveryBench

namespace Broker

/-- The tickets of the consumers attached at an address, in order of attachment. -/
def ticketsAt (b : Broker) (address : Address) : List Ticket :=
  (b.attachedAt address).map fun c => ⟨address, c.id, c.queue⟩

end Broker

/-- A handle, with the target at which it has been started. -/
structure Hand where
  target : Target
  worker : Worker

/-- A broker in memory with all handles that have been made for it, in order. -/
structure Site where
  world : World Broker
  hands : List Hand := []

namespace Site

/-- Something that happens at a site. -/
inductive Event where
  /-- A handle is made and told to start. -/
  | hire (stopTimeout : Duration) (target : Target) (spec : WorkerSpec)
  /-- The handle at a place is told to stop. -/
  | ask (place : Nat)
  /-- The wait for the loop at a place is over, and the stop comes to its end. -/
  | part (place : Nat) (outcome : StopOutcome)
  /-- The delivery loop at a place takes a step. -/
  | step (place : Nat)
  /-- The delivery loop at a place is aborted. -/
  | abort (place : Nat)
  | publish (topic : String) (m : Message)
  | failAttempt (attempt : Nat)
  | failPublish (fail : Bool)
  | openGate (gate : String)

/-- Whether an event is done by whoever manages the workers. -/
def Event.isManaged : Event → Bool
  | .hire .. | .ask _ | .part .. => true
  | _ => false

/-- Makes a handle and tells it to start. -/
def hire (s : Site) (stopTimeout : Duration) (target : Target) (spec : WorkerSpec) :
    Except Failure Unit × Site :=
  let (result, worker, broker) :=
    Worker.start Broker.client target { spec, stopTimeout } s.world.broker
  (result, { world := s.world.withBroker broker, hands := s.hands ++ [⟨target, worker⟩] })

/-- Lets something happen to the worker at a place. -/
def act (s : Site) (place : Nat) (event : Worker.Event Broker) : Option Site :=
  match s.hands[place]? with
  | none => none
  | some h => (h.worker.happen Broker.client s.world event).map fun next =>
    { world := next.2, hands := s.hands.set place { h with worker := next.1 } }

/-- Calls the broker without the workers. -/
def call (s : Site) (c : Call) : Site :=
  { s with world := s.world.withBroker (s.world.broker.call c).2 }

/-- What an event makes of a site, if it can happen. -/
def happen (s : Site) : Event → Option Site
  | .hire stopTimeout target spec => some (s.hire stopTimeout target spec).2
  | .ask place => s.act place .ask
  | .part place outcome => s.act place (.part outcome)
  | .step place => s.act place .step
  | .abort place => s.act place .abort
  | .publish topic m => some (s.call (.publish topic m))
  | .failAttempt attempt => some (s.call (.failAttempt attempt))
  | .failPublish fail => some (s.call (.failPublish fail))
  | .openGate gate => some { s with world := s.world.openGate gate }

/-- What a sequence of events makes of a site, if each can happen. -/
def happenAll (s : Site) (events : List Event) : Option Site :=
  events.foldlM happen s

/-- Events lead from a site to what becomes of it. -/
inductive Leads (s : Site) : Site → Prop where
  | here : Leads s s
  | on {s' s'' : Site} (event : Event) : Leads s s' → s'.happen event = some s'' → Leads s s''

/-! ## Starting and stopping together -/

/-- Whoever manages the workers does nothing for a while. -/
inductive Pauses (s : Site) : Site → Prop where
  | here : Pauses s s
  | on {s' s'' : Site} (event : Event) : Pauses s s' → event.isManaged = false →
    s'.happen event = some s'' → Pauses s s''

/-- Workers are started for some specifications, in order; the failures. -/
inductive StartsAll (stopTimeout : Duration) (target : Target) :
    Site → List WorkerSpec → List Failure → Site → Prop where
  | done {s s' : Site} : Pauses s s' → StartsAll stopTimeout target s [] [] s'
  | next {s s' s'' : Site} {spec : WorkerSpec} {specs : List WorkerSpec} {failures : List Failure} :
    Pauses s s' →
    StartsAll stopTimeout target (s'.hire stopTimeout target spec).2 specs failures s'' →
    StartsAll stopTimeout target s (spec :: specs)
      (Crew.failureOf (s'.hire stopTimeout target spec).1 ++ failures) s''

/-- The handle at a place is told to stop, and its stop comes to an end with this result. -/
inductive Stops (s : Site) (place : Nat) : Except Failure Unit → Site → Prop where
  /-- There is no loop to wait for. -/
  | marked {h : Hand} {s' : Site} : s.hands[place]? = some h → h.worker.beginStop.1 = false →
    s.act place .ask = some s' → Stops s place (.ok ()) s'
  | waited {h h' : Hand} {outcome : StopOutcome} {asked waiting s' : Site} :
    s.hands[place]? = some h → h.worker.beginStop.1 = true → s.act place .ask = some asked →
    Pauses asked waiting → waiting.hands[place]? = some h' →
    waiting.act place (.part outcome) = some s' →
    Stops s place (h'.worker.finishStop Broker.client outcome waiting.world.broker).1 s'

/-- The handles at some places are stopped, in order; the failures. -/
inductive StopsAll : Site → List Nat → List Failure → Site → Prop where
  | done {s s' : Site} : Pauses s s' → StopsAll s [] [] s'
  | next {s before after s' : Site} {place : Nat} {places : List Nat}
    {result : Except Failure Unit} {failures : List Failure} :
    Pauses s before → Stops before place result after → StopsAll after places failures s' →
    StopsAll s (place :: places) (Crew.failureOf result ++ failures) s'

/-! ## Who is at work -/

/-- The handles started at an address that are running. -/
def runningAt (s : Site) (address : Address) : List Hand :=
  s.hands.filter fun h => h.target.toAddress == address && h.worker.isRunning

/-- The handles started at an address that are running or whose stop has not come to its end. -/
def busyAt (s : Site) (address : Address) : List Hand :=
  s.hands.filter fun h =>
    h.target.toAddress == address && (h.worker.isRunning || h.worker.isParting)

/-- Whether no stop is under way. -/
def isQuiet (s : Site) : Bool :=
  s.hands.all fun h => !h.worker.isParting

end Site

end DeliveryBench
