import DeliveryBench.Journal.Snapshot

/-!
The life of a journal as a list of entries.

A `Journal.Entry` is a delivery or the failure of a handler. `Journal.writeAll` writes entries one
after the other and returns the numbers that the deliveries get. What a reader should be shown is
defined on the entries, without shards and without sorting: `Journal.transcript` and
`Journal.failuresByDelivery`.

Whoever reads a journal goes through the shards in no particular order (`Journal.Rearranged`).
-/

namespace DeliveryBench.Journal

/-- Something that is written into a journal. -/
inductive Entry where
  | delivery (worker : String) (m : Message)
  | failure (worker : String) (m : Message) (sequence : Nat) (reason : String)
deriving DecidableEq

/-- Writes an entry; a delivery gets a number. -/
def write (j : Journal) : Entry → Option Nat × Journal
  | .delivery worker m => (some (j.record worker m).1, (j.record worker m).2)
  | .failure worker m sequence reason => (none, j.recordFailure worker m sequence reason)

/-- Writes some entries; the result is the numbers of the deliveries. -/
def writeAll (j : Journal) : List Entry → List Nat × Journal
  | [] => ([], j)
  | entry :: rest =>
    let (number, next) := j.write entry
    let (numbers, last) := writeAll next rest
    (number.toList ++ numbers, last)

/-! ## What has been written -/

def Entry.delivery? : Entry → Option (String × Message)
  | .delivery worker m => some (worker, m)
  | .failure .. => none

def Entry.failure? : Entry → Option HandlerFailure
  | .delivery .. => none
  | .failure worker m sequence reason => some ⟨worker, m.id, m.payload, reason, sequence⟩

/-- The workers and what they are delivered, in order. -/
def deliveriesIn (entries : List Entry) : List (String × Message) :=
  entries.filterMap Entry.delivery?

/-- The failures of handlers, in the order in which they are written. -/
def failuresIn (entries : List Entry) : List HandlerFailure :=
  entries.filterMap Entry.failure?

/-- The deliveries in order, with their places as numbers. -/
def transcript (entries : List Entry) : List Observation :=
  (deliveriesIn entries).mapIdx fun i d => ⟨d.1, d.2.id, d.2.payload, d.2.key, i⟩

/-- For each delivery, in order, the failure that bears its number. -/
def failuresByDelivery (entries : List Entry) : List HandlerFailure :=
  (transcript entries).filterMap fun o =>
    (failuresIn entries).find? fun f => f.sequence == o.sequence

/-- A failure bears the number of a delivery of the same message to the same worker, and no two bear
the same number. -/
structure Accountable (entries : List Entry) : Prop where
  own : ∀ f ∈ failuresIn entries, ∃ o ∈ transcript entries,
    o.sequence = f.sequence ∧ o.worker = f.worker ∧ o.id = f.id ∧ o.payload = f.payload
  once : ((failuresIn entries).map HandlerFailure.sequence).Nodup

/-! ## Reading -/

/-- The same journal with its shards in another order. -/
structure Rearranged (j j' : Journal) : Prop where
  observed : List.Perm j'.observed j.observed
  failed : List.Perm j'.failed j.failed
  next : j'.next = j.next

end DeliveryBench.Journal
