import DeliveryBench.Journal
import DeliveryBench.Table
import DeliveryBench.Tally

/-!
A snapshot of the journal and what can be read off it: the deliveries of one worker, and counts by
key and by worker. The tables are filled one delivery after the other, so that they hold no zeros,
and those that are shown come out in ascending order.

Caveat: `Journal.snapshot` reads all shards at one moment. A copy that is taken shard after shard,
while workers go on writing, can have a delivery and miss an earlier one of another worker; the
snapshots of a run are taken by one step of the run.
-/

namespace DeliveryBench

/-- The deliveries up to one moment, in the order of their numbers. -/
structure Snapshot where
  observations : List Observation := []
deriving DecidableEq

/-- The snapshot of the moment: all shards are read at once. -/
def Journal.snapshot (j : Journal) : Snapshot :=
  ⟨j.observations⟩

namespace Snapshot

def size (s : Snapshot) : Nat :=
  s.observations.length

def isEmpty (s : Snapshot) : Bool :=
  s.observations.isEmpty

/-- The deliveries to one worker, in order. -/
def observationsFor (s : Snapshot) (worker : String) : List Observation :=
  s.observations.filter fun o => o.worker == worker

/-- The payloads delivered to one worker, in order. -/
def payloadsFor (s : Snapshot) (worker : String) : List String :=
  (s.observationsFor worker).map Observation.payload

/-! ## Names that occur -/

/-- The workers that were delivered something, in ascending order. -/
def workers (s : Snapshot) : List String :=
  ascending (s.observations.map Observation.worker)

/-- The keys that were delivered, in ascending order. -/
def keys (s : Snapshot) : List String :=
  ascending (s.observations.filterMap Observation.key)

/-- The workers that were delivered a key, in ascending order. -/
def workersOf (s : Snapshot) (key : String) : List String :=
  ascending ((s.observations.filter fun o => o.key == some key).map Observation.worker)

/-- For each worker, what it was delivered, in order. -/
def byWorker (s : Snapshot) : List (String × List Observation) :=
  s.workers.map fun worker => (worker, s.observationsFor worker)

/-! ## Counts -/

/-- How often each message was delivered. Nobody looks at the order of the messages. -/
def timesByMessage (s : Snapshot) : List (MessageId × Nat) :=
  tally (fun _ _ => false) 0 Observation.id (fun _ times => times + 1) s.observations

/-- How often a message was delivered. -/
def timesDelivered (s : Snapshot) (id : MessageId) : Nat :=
  (s.timesByMessage.lookup id).getD 0

/-- How many messages were delivered to each worker. Nobody looks at the order of the workers. -/
def totalsByWorker (s : Snapshot) : List (String × Nat) :=
  tally (fun _ _ => false) 0 Observation.worker (fun _ count => count + 1) s.observations

/-- How many messages were delivered to a worker. -/
def countOfWorker (s : Snapshot) (worker : String) : Nat :=
  (s.totalsByWorker.lookup worker).getD 0

/-- For each key, how many of its messages were delivered. -/
def countsByKey (s : Snapshot) : List (String × Nat) :=
  tally byName 0 id (fun _ count => count + 1) (s.observations.filterMap Observation.key)

/-- How many messages of a key were delivered. -/
def countOfKey (s : Snapshot) (key : String) : Nat :=
  (s.countsByKey.lookup key).getD 0

/-- For each key, who was delivered it, in ascending order. -/
def workersByKey (s : Snapshot) : List (String × List String) :=
  tally byName [] Prod.fst (fun keyed workers => insertAscending keyed.2 workers)
    (s.observations.filterMap fun o => o.key.map fun key => (key, o.worker))

/-- The order in which keys are listed: no key comes first. -/
def keyOrder : Option String → Option String → Bool
  | none, _ => true
  | some _, none => false
  | some key, some other => byName key other

/-- For each worker, how many messages of each key it was delivered. -/
def countsByWorker (s : Snapshot) : List (String × List (Option String × Nat)) :=
  tally byName [] Observation.worker (fun o row => enter keyOrder 0 (· + 1) o.key row)
    s.observations

end Snapshot

end DeliveryBench
