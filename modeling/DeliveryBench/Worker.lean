import DeliveryBench.Failure
import DeliveryBench.Worker.Loop

/-!
The life of a worker: created, started or failed to start, stopped.

`Worker.start` subscribes and sets the delivery loop going. Stopping has two halves:
`Worker.beginStop` asks the loop to stop, and once the loop has ended, or has been given up after
the timeout, `Worker.finishStop` gives the subscription back, whatever became of the loop. A worker
that is not running has nothing to give back, so stopping it does nothing but mark it.
`Worker.stop` is both halves, for a known outcome of the wait in between.
-/

namespace DeliveryBench

/-- The states of a worker's life. -/
inductive WorkerState where
  | created | running | failed | stopped
deriving DecidableEq, Repr

def WorkerState.name : WorkerState → String
  | .created => "Created"
  | .running => "Running"
  | .failed => "Failed"
  | .stopped => "Stopped"

/-- A worker. -/
structure Worker where
  spec : WorkerSpec
  /-- How long its loop may take to wind down. -/
  stopTimeout : Duration
  state : WorkerState := .created
  /-- Whether there is a delivery loop that has not been set going yet. -/
  hasLoop : Bool := true
  /-- The delivery loop, once it has been set going. -/
  loop : Option Loop := none
  /-- The subscription, as long as the worker has to give it back. -/
  ticket : Option Ticket := none

/-- What waiting for a delivery loop came to. -/
inductive StopOutcome where
  | ended (ending : Ending)
  | timedOut
deriving DecidableEq, Repr

namespace Worker

variable {σ : Type}

def isRunning (w : Worker) : Bool :=
  w.state == .running

/-- The worker in brief. -/
def brief (w : Worker) : String :=
  "WorkerHandle \x7b id: WorkerId(" ++ Text.quoted w.spec.name ++ "), state: " ++ w.state.name
    ++ ", stop_timeout: " ++ w.stopTimeout.brief ++ " \x7d"

/-! ## Starting -/

/-- Subscribes and sets the delivery loop going. -/
def start (client : Client σ) (target : Target) (w : Worker) (broker : σ) :
    Except Failure Unit × Worker × σ :=
  if w.state ≠ .created then
    (.error (.invalidState
      ("worker `" ++ w.spec.name ++ "` cannot start from state " ++ w.state.name)), w, broker)
  else if w.hasLoop = false then
    (.error (.invalidState ("worker `" ++ w.spec.name ++ "` has no delivery loop")), w, broker)
  else
    match client.subscribe target broker with
    | (.error source, broker) =>
      (.error (.start w.spec.name source), { w with state := .failed, hasLoop := false }, broker)
    | (.ok ticket, broker) =>
      (.ok (), { w with
        state := .running
        hasLoop := false
        loop := some { spec := w.spec, ticket }
        ticket := some ticket }, broker)

/-! ## Stopping -/

/-- Asks the worker to stop; also says whether there is a loop to wait for. -/
def beginStop (w : Worker) : Bool × Worker :=
  match w.state with
  | .stopped => (false, w)
  | .created | .failed => (false, { w with state := .stopped, hasLoop := false })
  | .running =>
    (true, { w with
      state := .stopped
      loop := w.loop.map fun l => { l with stopRequested := true } })

/-- What is to be reported of a loop after the wait for it. -/
def loopReason (timeout : Duration) : StopOutcome → Option String
  | .ended .finished => none
  | .ended (.crashed (some text)) =>
    some ("delivery task failed: task N panicked with message " ++ Text.quoted text)
  | .ended (.crashed none) => some "delivery task failed: task N panicked"
  | .ended .aborted => some "delivery task failed: task N was cancelled"
  | .timedOut =>
    some ("delivery task did not finish within " ++ timeout.brief ++ " and was aborted")

/-- Gives the subscription back and drops it; the reason if that fails. -/
def giveBack (client : Client σ) (w : Worker) (broker : σ) : Option String × Worker × σ :=
  match w.ticket with
  | none => (none, w, broker)
  | some ticket =>
    let w := { w with ticket := none }
    match client.unsubscribe ticket broker with
    | (.ok (), broker) => (none, w, client.release ticket broker)
    | (.error e, broker) => (some e.message, w, client.release ticket broker)

/-- The verdict on a stop, from the reasons against it. -/
def stopVerdict (name : String) (reasons : List String) : Except Failure Unit :=
  if reasons.isEmpty then .ok () else .error (.stop name ("; ".intercalate reasons))

/-- Ends a stop after the wait for the loop. -/
def finishStop (client : Client σ) (outcome : StopOutcome) (w : Worker) (broker : σ) :
    Except Failure Unit × Worker × σ :=
  let (unsubscribed, w, broker) := w.giveBack client broker
  (stopVerdict w.spec.name ((loopReason w.stopTimeout outcome).toList ++ unsubscribed.toList),
    w, broker)

/-- How a loop looks after it has been waited for. -/
def endLoop (outcome : StopOutcome) (w : Worker) : Worker :=
  let ending := match outcome with
    | .ended ending => ending
    | .timedOut => .aborted
  { w with loop := w.loop.map fun l => { l with phase := .ended ending } }

/-- Stops a worker whose loop, if it is waited for, comes to a known outcome. -/
def stop (client : Client σ) (outcome : StopOutcome) (w : Worker) (broker : σ) :
    Except Failure Unit × Worker × σ :=
  match w.beginStop with
  | (false, w) => (.ok (), w, broker)
  | (true, w) => (w.endLoop outcome).finishStop client outcome broker

/-- Drops a worker without stopping it: a loop that can be aborted is, and the subscription is
dropped. -/
def drop (client : Client σ) (w : Worker) (broker : σ) : Worker × σ :=
  match w.ticket with
  | none => (w, broker)
  | some ticket =>
    ({ w with ticket := none, loop := w.loop.map fun l => l.abort?.getD l },
      client.release ticket broker)

/-! ## Running -/

/-- One step of the worker's delivery loop. -/
def step (client : Client σ) (w : Worker) (world : World σ) : Option (Worker × World σ) :=
  match w.loop with
  | none => none
  | some l => (l.step client world).map fun next => ({ w with loop := some next.1 }, next.2)

/-- The end of the delivery loop, if it has ended. -/
def ending? (w : Worker) : Option Ending :=
  w.loop.bind Loop.ending?

/-- The gate that the handling of a message needs, if there is one. -/
def gate? (w : Worker) : Option String :=
  w.loop.bind Loop.gate?

/-- Aborts the delivery loop where it can be aborted. -/
def abort? (w : Worker) : Option Worker :=
  match w.loop with
  | none => none
  | some l => l.abort?.map fun l => { w with loop := some l }

end Worker

end DeliveryBench
