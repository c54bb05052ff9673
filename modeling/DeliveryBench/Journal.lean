import DeliveryBench.Message
import DeliveryBench.Ordering
import DeliveryBench.Word

/-!
The journal of a test run: what every worker has been delivered, and which deliveries its handler
failed on.

Each worker writes to a shard of its own, and one counter numbers the deliveries of all workers.
Reading puts the shards together by these numbers (`Journal.observations`,
`Journal.handlerFailures`), so that the order in which the shards happen to be kept does not show.
-/

namespace DeliveryBench

/-- One delivery to one worker. -/
structure Observation where
  worker : String
  id : MessageId
  payload : String
  key : Option String
  /-- The number of the delivery among all deliveries. -/
  sequence : Nat
deriving DecidableEq

/-- A delivery on which the handler failed. -/
structure HandlerFailure where
  worker : String
  id : MessageId
  payload : String
  reason : String
  /-- The number of the delivery that failed. -/
  sequence : Nat
deriving DecidableEq

/-- For each worker, in ascending order, the failures of its handler in the order of the list. -/
def HandlerFailure.byWorker (failures : List HandlerFailure) :
    List (String × List HandlerFailure) :=
  (ascending (failures.map HandlerFailure.worker)).map fun worker =>
    (worker, failures.filter fun f => f.worker == worker)

/-- Records by worker. -/
abbrev Shards (α : Type) := List (String × List α)

namespace Shards

variable {α : Type}

/-- Appends a record to the shard of a worker, which is made if need be. -/
def append (shards : Shards α) (worker : String) (record : α) : Shards α :=
  match shards with
  | [] => [(worker, [record])]
  | (name, records) :: rest =>
    if name = worker then (name, records ++ [record]) :: rest
    else (name, records) :: append rest worker record

/-- All records, shard after shard. -/
def all (shards : Shards α) : List α :=
  shards.flatMap Prod.snd

/-- All records, ordered by a number that each carries. -/
def inOrder (shards : Shards α) (number : α → Nat) : List α :=
  sortBy (fun a b => decide (number a ≤ number b)) shards.all

end Shards

/-- The records of a run. -/
structure Journal where
  observed : Shards Observation := []
  failed : Shards HandlerFailure := []
  /-- The number that the next delivery gets, a 64-bit word. -/
  next : Nat := 0
deriving DecidableEq

namespace Journal

/-- Records a delivery; the result is its number. -/
def record (j : Journal) (worker : String) (m : Message) : Nat × Journal :=
  (j.next, { j with
    observed := Shards.append j.observed worker ⟨worker, m.id, m.payload, m.key, j.next⟩
    next := Word.wrap (j.next + 1) })

/-- Records that the handler of a worker failed on a delivery. -/
def recordFailure (j : Journal) (worker : String) (m : Message) (sequence : Nat)
    (reason : String) : Journal :=
  { j with failed := Shards.append j.failed worker ⟨worker, m.id, m.payload, reason, sequence⟩ }

/-- The number of recorded deliveries. -/
def size (j : Journal) : Nat :=
  (Shards.all j.observed).length

def isEmpty (j : Journal) : Bool :=
  j.size == 0

/-- All deliveries in the order of their numbers. -/
def observations (j : Journal) : List Observation :=
  Shards.inOrder j.observed Observation.sequence

/-- All handler failures in the order of their deliveries. -/
def handlerFailures (j : Journal) : List HandlerFailure :=
  Shards.inOrder j.failed HandlerFailure.sequence

end Journal

end DeliveryBench
