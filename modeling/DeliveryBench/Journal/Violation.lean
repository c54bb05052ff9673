import DeliveryBench.Journal.Snapshot

/-!
What can be wrong with the deliveries of a run, and the functions that find it.

Each function compares a snapshot with what was expected and lists every deviation once, in a fixed
order, so that the list is empty exactly if the expectation holds.
-/

namespace DeliveryBench

/-- A deviation from what was expected. -/
inductive Violation where
  /-- One key went to several workers. -/
  | keySplit (key : String) (workers : List String)
  | countMismatch (key : String) (expected actual : Nat)
  | workerCountMismatch (worker : String) (expected actual : Nat)
  /-- A published message that nobody was delivered. -/
  | missing (id : MessageId) (payload : String)
  | duplicate (id : MessageId) (payload : String) (times : Nat)
  /-- A delivered message that nobody published. -/
  | unexpected (id : MessageId) (payload : String)
  | payloadMismatch (worker : String) (expected actual : List String)
deriving DecidableEq

namespace Violation

/-- How the texts show a message. -/
def shownMessage (id : MessageId) (payload : String) : String :=
  "message " ++ id.text ++ " (`" ++ payload ++ "`)"

/-- The text of a violation. -/
def message : Violation → String
  | .keySplit key workers =>
    "key `" ++ key ++ "` was consumed by " ++ toString workers.length ++ " workers: "
      ++ ", ".intercalate workers
  | .countMismatch key expected actual =>
    "key `" ++ key ++ "` observed " ++ toString actual ++ " times, expected " ++ toString expected
  | .workerCountMismatch worker expected actual =>
    "worker `" ++ worker ++ "` observed " ++ toString actual ++ " messages, expected "
      ++ toString expected
  | .missing id payload => shownMessage id payload ++ " was never observed"
  | .duplicate id payload times =>
    shownMessage id payload ++ " observed " ++ toString times ++ " times"
  | .unexpected id payload => shownMessage id payload ++ " was observed but never published"
  | .payloadMismatch worker expected actual =>
    "worker `" ++ worker ++ "` observed " ++ Text.quotedList actual ++ ", expected "
      ++ Text.quotedList expected

end Violation

namespace Snapshot

/-- The keys that went to more than one worker. -/
def splitKeys (s : Snapshot) : List Violation :=
  (s.workersByKey.filter fun entry => entry.2.length > 1).map fun entry =>
    .keySplit entry.1 entry.2

/-- The keys, expected or delivered, whose count is not the expected one. -/
def keyCountMismatches (s : Snapshot) (expected : Counts) : List Violation :=
  (ascending (expected.names ++ s.keys)).filterMap fun key =>
    if expected.count key = s.countOfKey key then none
    else some (.countMismatch key (expected.count key) (s.countOfKey key))

/-- The workers whose count is not the expected one: first those with an expected count, then
those of whom nothing was expected. -/
def workerCountMismatches (s : Snapshot) (expected : Counts) : List Violation :=
  let listed := expected.names.filterMap fun worker =>
    if expected.count worker = s.countOfWorker worker then none
    else some (.workerCountMismatch worker (expected.count worker) (s.countOfWorker worker))
  let unlisted := (s.workers.filter fun worker => !expected.names.contains worker).map fun worker =>
    .workerCountMismatch worker 0 (s.countOfWorker worker)
  listed ++ unlisted

/-- The verdict on one published message. -/
def deliveryOf (s : Snapshot) (m : Message) : Option Violation :=
  match s.timesDelivered m.id with
  | 0 => some (.missing m.id m.payload)
  | 1 => none
  | times => some (.duplicate m.id m.payload times)

/-- The first delivery of each message that is not among the given ones. -/
def strangers (known : List MessageId) : List Observation → List Observation
  | [] => []
  | o :: rest =>
    if known.contains o.id then strangers known rest
    else o :: strangers (o.id :: known) rest

/-- The published messages that were not delivered exactly once, and the delivered ones that were
not published. -/
def deliveryViolations (s : Snapshot) (published : List Message) : List Violation :=
  published.filterMap s.deliveryOf ++
    (strangers (published.map Message.id) s.observations).map fun o => .unexpected o.id o.payload

/-- The workers with an expected list of payloads that were delivered others, order aside. -/
def payloadMismatches (s : Snapshot) (expected : Table (List String)) : List Violation :=
  expected.toList.filterMap fun entry =>
    let wanted := sortNames entry.2
    let got := sortNames (s.payloadsFor entry.1)
    if wanted = got then none else some (.payloadMismatch entry.1 wanted got)

end Snapshot

end DeliveryBench
