import DeliveryBench.Broker.Script
import DeliveryBench.Worker.Crew

/-!
A bench on which workers are tried out by hand: named groups of workers around one scripted broker.

The one who works at the bench does one thing at a time, and between two things everything comes to
rest: `Bench.settle` lets every delivery loop go on until it waits, for a message or at a gate. A
stop comes to rest in the middle as well, because the loop that it waits for goes on meanwhile. A
gate may be opened for a loop that cannot end by itself; one that still cannot runs out of time. A
timeout of zero leaves no time to come to rest, so only a loop that has ended before is in time.

A handler outlives its delivery loop. When the loop is aborted, a handler that waits at a gate keeps
waiting there, although nobody will record what it does (`Bench.orphans`).
-/

namespace DeliveryBench

/-- The state of a bench. -/
structure Bench where
  script : Script
  /-- The timeout that every worker gets. -/
  stopTimeout : Duration
  world : World ScriptedBroker
  groups : Table (List Worker) := {}
  /-- The gates of the handlers whose delivery loops have been aborted. -/
  orphans : List String := []

namespace Bench

/-- A bench with a new broker and these signals. -/
def fresh (script : Script) (stopTimeout : Duration) (signals : List Signal) : Bench where
  script
  stopTimeout
  world := { broker := {}, signals }

/-- The broker of the bench, seen by the workers. -/
def client (b : Bench) : Client ScriptedBroker :=
  ScriptedBroker.client b.script

/-- Changes the broker without the workers. -/
def withBroker (b : Bench) (broker : Broker) : Bench :=
  { b with world := b.world.withBroker { b.world.broker with broker } }

/-! ## Coming to rest -/

/-- A number of steps after which a loop waits. -/
def allowance (s : ScriptedBroker) (l : Loop) : Nat :=
  4 * s.broker.queued l.ticket + 8

/-- Lets the loop of a worker go on until it waits. -/
def settleWorker (client : Client ScriptedBroker) (w : Worker) (world : World ScriptedBroker) :
    Worker × World ScriptedBroker :=
  match w.loop with
  | none => (w, world)
  | some l =>
    let (l, world) := l.drain client (allowance world.broker l) world
    ({ w with loop := some l }, world)

/-- Lets the loops of some workers go on, one after the other. -/
def settleWorkers (client : Client ScriptedBroker) :
    List Worker → World ScriptedBroker → List Worker × World ScriptedBroker
  | [], world => ([], world)
  | w :: ws, world =>
    let (w, world) := settleWorker client w world
    let (ws, world) := settleWorkers client ws world
    (w :: ws, world)

/-- Lets the loops of all groups go on, one group after the other. -/
def settleGroups (client : Client ScriptedBroker) :
    List (String × List Worker) → World ScriptedBroker →
    List (String × List Worker) × World ScriptedBroker
  | [], world => ([], world)
  | (name, ws) :: rest, world =>
    let (ws, world) := settleWorkers client ws world
    let (rest, world) := settleGroups client rest world
    ((name, ws) :: rest, world)

/-- Lets everything come to rest. -/
def settle (b : Bench) : Bench :=
  let (groups, world) := settleGroups b.client b.groups.entries b.world
  { b with groups := ⟨groups⟩, world }

/-! ## Workers -/

/-- The workers of a group; a group that is not there has none. -/
def workers (b : Bench) (group : String) : List Worker :=
  (b.groups.get? group).getD []

/-- The worker at a place of a group. -/
def worker? (b : Bench) (group : String) (index : Nat) : Option Worker :=
  (b.workers group)[index]?

/-- Changes the worker at a place of a group. -/
def setWorker (b : Bench) (group : String) (index : Nat) (w : Worker) : Bench :=
  { b with groups := b.groups.insert group ((b.workers group).set index w) }

/-- Drops workers without stopping them. -/
def dropWorkers (client : Client ScriptedBroker) (ws : List Worker) (s : ScriptedBroker) :
    ScriptedBroker :=
  ws.foldl (fun s w => (w.drop client s).2) s

/-- Keeps the handlers of some workers whose loops are aborted. -/
def orphan (b : Bench) (ws : List Worker) : Bench :=
  { b with orphans := ws.filterMap Worker.gate? ++ b.orphans }

/-- Drops the workers of a group without stopping them. -/
def abandon (b : Bench) (group : String) : Bench :=
  let ws := b.workers group
  { b.orphan ws with world := b.world.withBroker (dropWorkers b.client ws b.world.broker) }

/-- Makes some workers a group; the group that had the name is dropped. -/
def replaceGroup (b : Bench) (group : String) (ws : List Worker) : Bench :=
  let b := b.abandon group
  { b with groups := b.groups.insert group ws }

/-! ## What can be done -/

/-- Makes a group of workers that are not started. -/
def create (b : Bench) (group : String) (specs : List WorkerSpec) : Bench :=
  b.replaceGroup group (specs.map fun spec => { spec, stopTimeout := b.stopTimeout })

/-- Starts workers, all of them, and makes them a group; the failures in their order. -/
def startAll (b : Bench) (group : String) (target : Target) (specs : List WorkerSpec) :
    List Failure × Bench :=
  let ((ws, failures), broker) :=
    Crew.startAll b.client b.stopTimeout target specs b.world.broker
  (failures, { b with world := b.world.withBroker broker }.replaceGroup group ws)

/-- Starts the worker at a place of a group, if there is one. -/
def start (b : Bench) (group : String) (index : Nat) (target : Target) :
    Except Failure Unit × Bench :=
  match b.worker? group index with
  | none => (.ok (), b)
  | some w =>
    let (result, w, broker) := w.start b.client target b.world.broker
    (result, { b.setWorker group index w with world := b.world.withBroker broker })

/-- Opens a gate for good. -/
def openGate (b : Bench) (gate : String) : Bench :=
  { b with world := b.world.openGate gate }

/-- Opens a gate if there is one to open. -/
def openGate? (b : Bench) (gate : Option String) : Bench :=
  gate.elim b b.openGate

/-- What the wait for a worker's loop comes to when time is up. -/
def outcomeOf (w : Worker) : StopOutcome :=
  match w.ending? with
  | some ending => .ended ending
  | none => .timedOut

/-- Waits for the loop of the worker at a place of a group, if it is given any time; if the loop
cannot end by itself, a gate may be opened for it. -/
def waitFor (b : Bench) (group : String) (index : Nat) (gate : Option String) : Bench :=
  if b.stopTimeout.isZero then b
  else
    let b := b.settle
    match (b.worker? group index).bind Worker.ending? with
    | some _ => b
    | none => (b.openGate? gate).settle

/-- Stops the worker at a place of a group, if there is one; a gate may be opened if it has to be
waited for. -/
def stopOne (b : Bench) (group : String) (index : Nat) (gate : Option String) :
    Except Failure Unit × Bench :=
  match b.worker? group index with
  | none => (.ok (), b)
  | some w =>
    match w.beginStop with
    | (false, w) => (.ok (), b.setWorker group index w)
    | (true, w) =>
      let b := (b.setWorker group index w).waitFor group index gate
      match b.worker? group index with
      | none => (.ok (), b)
      | some w =>
        let outcome := outcomeOf w
        let b := if outcome = .timedOut then b.orphan [w] else b
        let (result, w, broker) := (w.endLoop outcome).finishStop b.client outcome b.world.broker
        (result, { b.setWorker group index w with world := b.world.withBroker broker })

/-- Stops the workers at some places of a group, one after the other. -/
def stopEach (group : String) (gate : Option String) : List Nat → Bench → List Failure × Bench
  | [], b => ([], b)
  | index :: rest, b =>
    let (result, b) := b.stopOne group index gate
    let (failures, b) := stopEach group gate rest b
    (Crew.failureOf result ++ failures, b)

/-- Stops one worker; by the time it has stopped, the gate is open. -/
def stop (b : Bench) (group : String) (index : Nat) (gate : Option String) :
    Except Failure Unit × Bench :=
  let (result, b) := b.stopOne group index gate
  (result, b.openGate? gate)

/-- Stops all workers of a group; by the time they have stopped, the gate is open. -/
def stopAll (b : Bench) (group : String) (gate : Option String) : List Failure × Bench :=
  let (failures, b) := stopEach group gate (List.range (b.workers group).length) b
  (failures, b.openGate? gate)

/-- Drops a group without stopping it; whether there was one. -/
def dropGroup (b : Bench) (group : String) : Bool × Bench :=
  let existed := (b.groups.get? group).isSome
  let b := b.abandon group
  (existed, { b with groups := b.groups.erase group })

/-! ## What can be seen -/

/-- The number of handlers that wait at a gate. -/
def blocked (b : Bench) : Nat :=
  let workers := b.groups.toList.flatMap Prod.snd
  (workers.countP fun w => w.loop.any fun l => l.isBlocked b.world)
    + b.orphans.countP fun gate => !b.world.isOpen (some gate)

/-- Whether at least so many handlers wait and so many deliveries are recorded. -/
def awaits (b : Bench) (handlers deliveries : Nat) : Bool :=
  handlers ≤ b.blocked && deliveries ≤ b.world.journal.size

end Bench

end DeliveryBench
