import DeliveryBench.Scenario.Verdict
import DeliveryBench.Settings
import DeliveryBench.Worker

/-!
The run of a scenario, as a transition system.

A `Plan` says what is run, with which settings and against which broker. A `Run` is the state of a
run: the world, the workers, and how far the runner has come (`Stage`). Steps come from four sides
(`Action`): the runner, the delivery loops, the clock, and the world outside. `Run.step` is the
state after an action, or nothing where the action cannot happen; any sequence of steps is a run
that can happen.

The runner starts the workers, lets them settle, publishes, waits for the completion signals,
checks the deliveries, and tears everything down. A failure in any phase leads straight to the
teardown, and every run that ends has gone through it: it stops every worker, in order, closes the
client, and only then writes the report.
-/

namespace DeliveryBench

/-- The phases that a run reports. -/
inductive RunPhase where
  | idle | workersStarting | workersRunning | publishing | waiting | verifying | tornDown
deriving DecidableEq, Repr

def RunPhase.name : RunPhase → String
  | .idle => "Idle"
  | .workersStarting => "WorkersStarting"
  | .workersRunning => "WorkersRunning"
  | .publishing => "Publishing"
  | .waiting => "Waiting"
  | .verifying => "Verifying"
  | .tornDown => "TornDown"

/-- What is run. -/
structure Plan (σ : Type) where
  scenario : Scenario
  settings : Settings
  client : Client σ
  producer : Producer σ

/-- How many signals at zero the runner can take note of in one look. It does 128 things at most
before it lets the others go on, and having slept is one of them. The 128 is nothing of the runner's
own: it is the budget that the asynchronous runtime gives a task for one turn. -/
def Plan.lookLimit {σ : Type} (plan : Plan σ) : Nat :=
  if plan.settings.startupSettle.isZero then 128 else 127

/-- What a run has to tell in the end. -/
structure Report where
  name : String
  /-- Every phase that the run went through. -/
  transitions : List RunPhase
  outcome : Except Failure Unit
  startFailures : List Failure
  stopFailures : List Failure
  closeFailure : Option BrokerError
  handlerFailures : List HandlerFailure
  snapshot : Snapshot

namespace Report

def isSuccess (r : Report) : Bool :=
  match r.outcome with
  | .ok () => true
  | .error _ => false

/-- Whether the deliveries did not all come in time. -/
def timedOut (r : Report) : Bool :=
  match r.outcome with
  | .error (.waitTimeout ..) => true
  | _ => false

/-- The phase in which the run ended. -/
def finalPhase (r : Report) : RunPhase :=
  r.transitions.getLast?.getD .idle

def reached (r : Report) (phase : RunPhase) : Bool :=
  r.transitions.contains phase

/-- The deliveries of a successful run, or its failure. -/
def result (r : Report) : Except Failure Snapshot :=
  r.outcome.map fun () => r.snapshot

end Report

/-- How far the runner has come. -/
inductive Stage where
  /-- These workers are still to be started. -/
  | starting (rest : List WorkerSpec)
  /-- The workers run; they are given time to settle. -/
  | settling
  /-- These messages are still to be published; the first failure so far. -/
  | publishing (rest : List Message) (failed : Option Failure)
  /-- These signals have not been seen at zero. -/
  | waiting (unmet : List SignalId)
  /-- The time for waiting has run out. -/
  | overdue
  | verifying
  /-- The deliveries are as expected; the handler failures are still to be looked at. -/
  | judging
  /-- The worker at this place is to be stopped next. -/
  | stopping (index : Nat)
  /-- The worker at this place has been asked to stop. -/
  | awaiting (index : Nat)
  /-- The worker at this place took too long and is given up. -/
  | abandoning (index : Nat)
  | closing
  | reporting
  | done (report : Report)
  /-- The runner itself broke down. -/
  | crashed (text : String)

/-- The state of a run. -/
structure Run (σ : Type) where
  world : World σ
  workers : List Worker := []
  stage : Stage
  transitions : List RunPhase
  outcome : Except Failure Unit := .ok ()
  startFailures : List Failure := []
  stopFailures : List Failure := []
  closeFailure : Option BrokerError := none
  /-- The time that has passed, in nanoseconds. -/
  clock : Nat := 0

/-- Who takes a step. -/
inductive Step where
  | runner
  /-- The delivery loop of the worker at this place. -/
  | worker (index : Nat)
  /-- A timeout runs out. -/
  | timeout
  /-- Somebody opens a gate. -/
  | gate (name : String)
  /-- The broker does something of its own accord. -/
  | broker
deriving DecidableEq, Repr

namespace Run

variable {σ : Type}

/-- The start of a run on a broker. -/
def initial (plan : Plan σ) (broker : σ) : Run σ where
  world := { broker, signals := plan.scenario.signals }
  stage := .starting plan.scenario.workers
  transitions := [.idle, .workersStarting]

/-- Notes the next phase. -/
def enter (r : Run σ) (phase : RunPhase) (stage : Stage) : Run σ :=
  { r with transitions := r.transitions ++ [phase], stage }

/-- Turns to the teardown. -/
def tearDown (r : Run σ) (outcome : Except Failure Unit) : Run σ :=
  { r.enter .tornDown (.stopping 0) with outcome }

/-! ## The runner -/

/-- Starts one worker. -/
def startWorker (plan : Plan σ) (r : Run σ) (spec : WorkerSpec) (rest : List WorkerSpec) : Run σ :=
  let (result, worker, broker) := Worker.start plan.client plan.scenario.target
    { spec, stopTimeout := plan.settings.stopTimeout } r.world.broker
  let failures := match result with
    | .ok () => r.startFailures
    | .error f => r.startFailures ++ [f]
  { r with
    world := r.world.withBroker broker
    workers := r.workers ++ [worker]
    startFailures := failures
    stage := .starting rest }

/-- Goes on once every worker has been attempted. -/
def afterStart (r : Run σ) : Run σ :=
  match r.startFailures with
  | f :: _ => r.tearDown (.error f)
  | [] => r.enter .workersRunning .settling

/-- Lets the workers settle, in one pause. -/
def settle (plan : Plan σ) (r : Run σ) : Run σ :=
  { r.enter .publishing (.publishing plan.scenario.messages none) with
    clock := r.clock
      + min plan.settings.startupSettle.toNanos Duration.longestPause.toNanos }

/-- Publishes one message. -/
def publishOne (plan : Plan σ) (r : Run σ) (m : Message) (rest : List Message)
    (failed : Option Failure) : Run σ :=
  let (result, broker) := plan.producer.publish plan.scenario.target.topic m r.world.broker
  let r := { r with world := r.world.withBroker broker }
  match result with
  | .ok () => { r with stage := .publishing rest failed }
  | .error e =>
    match plan.settings.publishMode with
    | .sequential => r.tearDown (.error (.publish m.id e))
    | .concurrent => { r with stage := .publishing rest (some (failed.getD (.publish m.id e))) }

/-- Goes on once nothing is left to publish. -/
def afterPublish (plan : Plan σ) (r : Run σ) (failed : Option Failure) : Run σ :=
  match failed with
  | some f => r.tearDown (.error f)
  | none => r.enter .waiting (.waiting (Scenario.distinctSignals plan.scenario.workers))

/-- The signals among these that one look leaves open: those that are not at zero, and those at
zero of which the look, with room for so many, takes no note any more. -/
def leftOpen (r : Run σ) : Nat → List SignalId → List SignalId
  | _, [] => []
  | room, id :: rest =>
    if r.world.count id = 0 then
      match room with
      | 0 => id :: leftOpen r 0 rest
      | room + 1 => leftOpen r room rest
    else id :: leftOpen r room rest

/-- Looks at the signals that have not been seen at zero yet. -/
def wait (plan : Plan σ) (r : Run σ) (unmet : List SignalId) : Option (Run σ) :=
  let left := r.leftOpen plan.lookLimit unmet
  if left.isEmpty then some (r.enter .verifying .verifying)
  else if left.length < unmet.length then some { r with stage := .waiting left }
  else none

/-- Adds up what is missing; the sum must be a word. -/
def sumPending (plan : Plan σ) (r : Run σ) : Run σ :=
  let pending := Word.total ((Scenario.distinctSignals plan.scenario.workers).map r.world.count)
  if pending < Word.limit then
    r.tearDown (.error (.waitTimeout pending plan.settings.waitTimeout))
  else { r with stage := .crashed "attempt to add with overflow" }

/-- Checks the deliveries so far. -/
def verify (plan : Plan σ) (r : Run σ) : Run σ :=
  match plan.scenario.standard.verify r.world.journal.snapshot with
  | .error f => r.tearDown (.error f)
  | .ok () => { r with stage := .judging }

/-- Looks at the handler failures so far. -/
def judge (plan : Plan σ) (r : Run σ) : Run σ :=
  r.tearDown (Standard.checkHandlers plan.settings.failOnHandlerError
    r.world.journal.handlerFailures)

/-- Changes the worker at a place. -/
def setWorker (r : Run σ) (index : Nat) (w : Worker) : Run σ :=
  { r with workers := r.workers.set index w }

/-- Asks the next worker to stop. -/
def stopNext (r : Run σ) (index : Nat) : Run σ :=
  match r.workers[index]? with
  | none => { r with stage := .closing }
  | some w =>
    match w.beginStop with
    | (false, w) => { r.setWorker index w with stage := .stopping (index + 1) }
    | (true, w) => { r.setWorker index w with stage := .awaiting index }

/-- Ends the stop of a worker. -/
def finishStop (plan : Plan σ) (r : Run σ) (index : Nat) (w : Worker) (outcome : StopOutcome) :
    Run σ :=
  let (result, w, broker) := w.finishStop plan.client outcome r.world.broker
  let failures := match result with
    | .ok () => r.stopFailures
    | .error f => r.stopFailures ++ [f]
  { r.setWorker index w with
    world := r.world.withBroker broker
    stopFailures := failures
    stage := .stopping (index + 1) }

/-- Goes on if the loop that is waited for has ended. -/
def awaitLoop (plan : Plan σ) (r : Run σ) (index : Nat) : Option (Run σ) :=
  match r.workers[index]? with
  | none => none
  | some w => w.ending?.map fun ending => r.finishStop plan index w (.ended ending)

/-- Aborts the loop that is given up, unless it ends by itself first. -/
def abandonLoop (plan : Plan σ) (r : Run σ) (index : Nat) : Option (Run σ) :=
  match r.workers[index]? with
  | none => none
  | some w =>
    match w.ending? with
    | some _ => some (r.finishStop plan index w .timedOut)
    | none => w.abort?.map fun w => r.finishStop plan index w .timedOut

/-- Closes the client. -/
def close (plan : Plan σ) (r : Run σ) : Run σ :=
  let (result, broker) := plan.client.close r.world.broker
  { r with
    world := r.world.withBroker broker
    closeFailure := match result with
      | .ok () => none
      | .error e => some e
    stage := .reporting }

/-- Writes the report. -/
def report (plan : Plan σ) (r : Run σ) : Report where
  name := plan.scenario.name
  transitions := r.transitions
  outcome := r.outcome
  startFailures := r.startFailures
  stopFailures := r.stopFailures
  closeFailure := r.closeFailure
  handlerFailures := r.world.journal.handlerFailures
  snapshot := r.world.journal.snapshot

/-- What the runner does next, if it can go on. -/
def runnerStep (plan : Plan σ) (r : Run σ) : Option (Run σ) :=
  match r.stage with
  | .starting (spec :: rest) => some (r.startWorker plan spec rest)
  | .starting [] => some r.afterStart
  | .settling => some (r.settle plan)
  | .publishing (m :: rest) failed => some (r.publishOne plan m rest failed)
  | .publishing [] failed => some (r.afterPublish plan failed)
  | .waiting unmet => r.wait plan unmet
  | .overdue => some (r.sumPending plan)
  | .verifying => some (r.verify plan)
  | .judging => some (r.judge plan)
  | .stopping index => some (r.stopNext index)
  | .awaiting index => r.awaitLoop plan index
  | .abandoning index => r.abandonLoop plan index
  | .closing => some (r.close plan)
  | .reporting => some { r with stage := .done (r.report plan) }
  | .done _ | .crashed _ => none

/-! ## The others -/

/-- A step of the delivery loop of a worker. -/
def workerStep (plan : Plan σ) (r : Run σ) (index : Nat) : Option (Run σ) :=
  match r.workers[index]? with
  | none => none
  | some w =>
    (w.step plan.client r.world).map fun next =>
      { r.setWorker index next.1 with world := next.2 }

/-- A timeout runs out, where one is running and what it guards has not happened; signals of which
one look could not take note have not been seen at zero. -/
def timeoutStep (plan : Plan σ) (r : Run σ) : Option (Run σ) :=
  match r.stage with
  | .waiting unmet =>
    if (r.leftOpen plan.lookLimit unmet).isEmpty then none
    else some { r with stage := .overdue, clock := r.clock + plan.settings.waitTimeout.toNanos }
  | .awaiting index =>
    match r.workers[index]? with
    | none => none
    | some w =>
      match w.ending? with
      | some _ => none
      | none =>
        some { r with
          stage := .abandoning index
          clock := r.clock + w.stopTimeout.toNanos }
  | _ => none

/-- The state after a step, if the step can be taken. -/
def step (plan : Plan σ) (r : Run σ) : Step → Option (Run σ)
  | .runner => r.runnerStep plan
  | .worker index => r.workerStep plan index
  | .timeout => r.timeoutStep plan
  | .gate name => some { r with world := r.world.openGate name }
  | .broker => some { r with world := r.world.withBroker (plan.client.advance r.world.broker) }

/-- The state after a sequence of steps, if each can be taken. -/
def steps (plan : Plan σ) (r : Run σ) (taken : List Step) : Option (Run σ) :=
  taken.foldlM (step plan) r

/-- The states that a run on a broker can come to. -/
inductive Reachable (plan : Plan σ) (broker : σ) : Run σ → Prop where
  | initial : Reachable plan broker (initial plan broker)
  | step {r r' : Run σ} (s : Step) : Reachable plan broker r → r.step plan s = some r' →
    Reachable plan broker r'

end Run

end DeliveryBench
