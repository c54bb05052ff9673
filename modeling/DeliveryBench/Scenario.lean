import DeliveryBench.Failure
import DeliveryBench.Worker.Spec

/-!
Scenarios: who consumes what from where, what is published, and what is expected of the deliveries.

A scenario is drafted freely and then built. `Draft.build` accepts a draft that says where to
publish and has workers of different names; if there are messages and no worker has a completion
signal, it gives all workers one signal that waits for as many deliveries as there are messages.
-/

namespace DeliveryBench

/-- What is expected of the deliveries of a run. -/
inductive Expectation where
  /-- No key goes to two workers. -/
  | keyAffinity
  /-- Each key is delivered so many times. -/
  | countPerKey (counts : Counts)
  /-- Each worker is delivered so many messages. -/
  | countPerWorker (counts : Counts)
  /-- Every published message is delivered exactly once, and nothing else. -/
  | deliveredExactly
  /-- Workers with expected payloads are delivered just these. -/
  | expectedPayloads
deriving DecidableEq

/-- A scenario that can be run. -/
structure Scenario where
  name : String
  target : Target
  workers : List WorkerSpec
  messages : List Message
  expectations : List Expectation
  /-- The completion signals that workers refer to, by place. -/
  signals : List Signal

namespace Scenario

/-- Adds a signal to those that have been named, unless it is among them. -/
def addNew (named : List SignalId) (signal : Option SignalId) : List SignalId :=
  match signal with
  | none => named
  | some id => if named.contains id then named else named ++ [id]

/-- The signals that workers carry, each once, in order of first use. -/
def distinctSignals (workers : List WorkerSpec) : List SignalId :=
  (workers.map WorkerSpec.signal).foldl addNew []

/-- The expected payloads of the workers that have any. -/
def expectedPayloads (workers : List WorkerSpec) : Table (List String) :=
  ⟨(workers.filter fun w => !w.expected.isEmpty).map fun w => (w.name, w.expected)⟩

end Scenario

/-- What can go wrong with a draft. -/
inductive DraftFault where
  | topicMissing
  | subscriptionMissing
  | workersMissing
  /-- The name of a worker that has been used before. -/
  | workerTwice (name : String)
deriving DecidableEq, Repr

def DraftFault.message : DraftFault → String
  | .topicMissing => "topic is required"
  | .subscriptionMissing => "subscription is required"
  | .workersMissing => "at least one worker is required"
  | .workerTwice name => "worker `" ++ name ++ "` is defined twice"

/-- A scenario in the making. -/
structure Draft where
  name : String
  topic : Option String := none
  subscription : Option String := none
  mode : Mode := .shared
  workers : List WorkerSpec := []
  messages : List Message := []
  expectations : List Expectation := []
  signals : List Signal := []

namespace Draft

/-- A text that has something in it besides blanks. -/
def given (s : Option String) : Option String :=
  s.filter fun s => !(Text.trim s.toList).isEmpty

/-- The first name that has occurred before. -/
def firstRepeated : List String → List String → Option String
  | _, [] => none
  | earlier, name :: rest =>
    if earlier.contains name then some name else firstRepeated (name :: earlier) rest

/-- Whether the workers need a signal that the draft does not have. -/
def lacksSignal (d : Draft) : Bool :=
  !d.messages.isEmpty && d.workers.all fun w => w.signal.isNone

/-- The scenario of a draft whose address is known. -/
def assemble (d : Draft) (target : Target) : Scenario :=
  if d.lacksSignal then
    { name := d.name, target, messages := d.messages, expectations := d.expectations
      workers := d.workers.map fun w => { w with signal := some d.signals.length }
      signals := d.signals ++ [.fresh d.messages.length] }
  else
    { name := d.name, target, messages := d.messages, expectations := d.expectations
      workers := d.workers, signals := d.signals }

/-- Builds the scenario, or says what is wrong with the draft. -/
def build (d : Draft) : Except DraftFault Scenario :=
  match given d.topic with
  | none => .error .topicMissing
  | some topic =>
    match given d.subscription with
    | none => .error .subscriptionMissing
    | some subscription =>
      if d.workers.isEmpty then .error .workersMissing
      else
        match firstRepeated [] (d.workers.map WorkerSpec.name) with
        | some name => .error (.workerTwice name)
        | none => .ok (d.assemble ⟨⟨topic, subscription⟩, d.mode⟩)

/-- A fault of a draft as a failure. -/
def toFailure (d : Draft) (fault : DraftFault) : Failure :=
  .invalidScenario (d.name ++ ": " ++ fault.message)

end Draft

end DeliveryBench
