import DeliveryBench.Run.History
import DeliveryBench.Run.Log

/-!
What can happen to one worker, in any order.

`Worker.happen` is what one event makes of a worker and of the world: its handle is told to start or
to stop, its delivery loop takes a step or is aborted, or others are at work (`Elsewhere`). A handle
does one thing at a time, so while a stop waits for the loop (`Worker.isParting`) the handle can
neither be started nor stopped.

`Worker.Lives client w world past w' world'` says that the worker and the world have come from one
state to another, and by which events. What the worker has received, recorded and counted, and what
it has asked of its broker, is read off these events.
-/

namespace DeliveryBench

variable {σ : Type}

/-- What others do to the world that a worker shares with them. -/
inductive Elsewhere (σ : Type) where
  | recorded (worker : String) (m : Message)
  | failed (worker : String) (m : Message) (sequence : Nat) (reason : String)
  | counted (id : SignalId)
  | opened (gate : String)
  /-- The broker is called, or does something of its own accord. -/
  | dealt (broker : σ)

namespace Elsewhere

/-- Whose records are added to. -/
def recorder? : Elsewhere σ → Option String
  | .recorded worker _ | .failed worker .. => some worker
  | _ => none

def apply (world : World σ) : Elsewhere σ → World σ
  | .recorded worker m => { world with journal := (world.journal.record worker m).2 }
  | .failed worker m sequence reason =>
    { world with journal := world.journal.recordFailure worker m sequence reason }
  | .counted id => world.countDown (some id)
  | .opened gate => world.openGate gate
  | .dealt broker => world.withBroker broker

end Elsewhere

/-- Whether the wait for a loop can come to this, the loop having ended so or not at all. A loop on
which the time has run out is waited for once more after it has been aborted. -/
def StopOutcome.fits (ending : Option Ending) : StopOutcome → Bool
  | .ended ending' => ending == some ending'
  | .timedOut => ending.isSome

/-- The failure that the loop is to put on record next. -/
def Loop.blame? (l : Loop) : Option HandlerFailure :=
  match l.phase with
  | .observed m sequence verdict =>
    verdict.failure?.map fun reason => ⟨l.spec.name, m.id, m.payload, reason, sequence⟩
  | _ => none

namespace Worker

/-- Something that happens to a worker. -/
inductive Event (σ : Type) where
  /-- Its handle is told to start. -/
  | start (target : Target)
  /-- Its delivery loop takes a step. -/
  | step
  /-- Its handle is told to stop. -/
  | ask
  /-- Its delivery loop is aborted. -/
  | abort
  /-- The wait for its delivery loop is over, and the stop comes to its end. -/
  | part (outcome : StopOutcome)
  | others (doing : Elsewhere σ)

/-- Whether a stop waits for the delivery loop. -/
def isParting (w : Worker) : Bool :=
  w.state == .stopped && w.ticket.isSome

/-- What an event makes of a worker and of the world, if it can happen. -/
def happen (client : Client σ) (w : Worker) (world : World σ) :
    Event σ → Option (Worker × World σ)
  | .start target =>
    if w.isParting then none
    else
      let (_, w, broker) := w.start client target world.broker
      some (w, world.withBroker broker)
  | .step => w.step client world
  | .ask => if w.isParting then none else some (w.beginStop.2, world)
  | .abort => w.abort?.map fun w => (w, world)
  | .part outcome =>
    if w.isParting && outcome.fits w.ending? then
      let (_, w, broker) := w.finishStop client outcome world.broker
      some (w, world.withBroker broker)
    else none
  | .others doing =>
    if doing.recorder? = some w.spec.name then none else some (w, doing.apply world)

/-- What a sequence of events makes of a worker and of the world, if each can happen. -/
def happenAll (client : Client σ) (w : Worker) (world : World σ) (events : List (Event σ)) :
    Option (Worker × World σ) :=
  events.foldlM (fun (w, world) event => w.happen client world event) (w, world)

/-- An event, with the worker and the world to which it happens. -/
structure Moment (σ : Type) where
  before : Worker
  world : World σ
  event : Event σ

/-- The events by which a worker and the world come from one state to another, oldest first. -/
inductive Lives (client : Client σ) (w : Worker) (world : World σ) :
    List (Moment σ) → Worker → World σ → Prop where
  | here : Lives client w world [] w world
  | on {past : List (Moment σ)} {w' w'' : Worker} {world' world'' : World σ} (event : Event σ) :
    Lives client w world past w' world' → w'.happen client world' event = some (w'', world'') →
    Lives client w world (past ++ [⟨w', world', event⟩]) w'' world''

/-- The moments of a sequence of events, as far as they can happen. -/
def moments (client : Client σ) (w : Worker) (world : World σ) : List (Event σ) → List (Moment σ)
  | [] => []
  | event :: rest => ⟨w, world, event⟩ ::
    match w.happen client world event with
    | none => []
    | some (w, world) => moments client w world rest

variable {client : Client σ} {w w' w'' : Worker} {world world' world'' : World σ}
  {past : List (Moment σ)}

theorem Lives.all {events : List (Event σ)} (lives : Lives client w world past w' world')
    (run : w'.happenAll client world' events = some (w'', world'')) :
    Lives client w world (past ++ moments client w' world' events) w'' world'' := by
  induction events generalizing past w' world' with
  | nil =>
      cases run
      rwa [moments, List.append_nil]
  | cons event rest ih =>
      rcases Option.bind_eq_some_iff.1 run with ⟨⟨next, nextWorld⟩, first, others⟩
      have taken : w'.happen client world' event = some (next, nextWorld) := first
      rw [moments, taken, List.append_cons]
      exact ih (lives.on event taken) others

theorem Lives.trans {later : List (Moment σ)} (lives : Lives client w world past w' world')
    (goesOn : Lives client w' world' later w'' world'') :
    Lives client w world (past ++ later) w'' world'' := by
  induction goesOn with
  | here => rwa [List.append_nil]
  | on event _ taken ih =>
      rw [← List.append_assoc]
      exact ih.on event taken

namespace Moment

/-- The delivery loop that takes the step. -/
def loop? (x : Moment σ) : Option Loop :=
  match x.event with
  | .step => x.before.loop
  | _ => none

/-- What a poll gives. -/
def polled? (client : Client σ) (x : Moment σ) : Option Reception :=
  match x.loop? with
  | none => none
  | some l =>
    if l.phase = .idle ∧ l.stopRequested = false then
      some (client.receive l.ticket x.world.broker).1
    else none

/-- The message that is received. -/
def received? (client : Client σ) (x : Moment σ) : Option Message :=
  match x.polled? client with
  | some (.message m) => some m
  | _ => none

/-- The text with which the subscription breaks down. -/
def breakdown? (client : Client σ) (x : Moment σ) : Option String :=
  match x.polled? client with
  | some (.crashed text) => some text
  | _ => none

/-- The delivery that a step puts on record. -/
def recording? (x : Moment σ) : Option Run.Recording :=
  match x.loop? with
  | none => none
  | some l =>
    match l.phase with
    | .handling m reaction =>
      some ⟨⟨l.spec.name, m.id, m.payload, m.key, x.world.journal.next⟩, reaction.verdict⟩
    | _ => none

/-- The failure that a step puts on record. -/
def failure? (x : Moment σ) : Option HandlerFailure :=
  x.loop?.bind Loop.blame?

/-- The delivery that a step counts. -/
def counted? (x : Moment σ) : Option Message :=
  match x.loop? with
  | none => none
  | some l =>
    match l.phase with
    | .recorded m => some m
    | _ => none

/-- The signal on which a delivery is counted, by this worker or by another. -/
def countedOn? (x : Moment σ) : Option SignalId :=
  match x.event with
  | .others (.counted id) => some id
  | _ => x.loop?.bind fun l =>
    match l.phase with
    | .recorded _ => l.spec.signal
    | _ => none

/-- What the handle answers, if this is the end of a call. -/
def answer? (client : Client σ) (x : Moment σ) : Option (Except Failure Unit) :=
  match x.event with
  | .start target => some (x.before.start client target x.world.broker).1
  | .ask => if x.before.beginStop.1 then none else some (.ok ())
  | .part outcome => some (x.before.finishStop client outcome x.world.broker).1
  | _ => none

/-- What the handle asks of its broker. -/
def deeds (client : Client σ) (x : Moment σ) : List Deed :=
  match x.event with
  | .start target => (x.before.start client.logged target ⟨x.world.broker, []⟩).2.2.log
  | .part outcome => (x.before.finishStop client.logged outcome ⟨x.world.broker, []⟩).2.2.log
  | _ => []

/-- Whether a start succeeds. -/
def isStart (client : Client σ) (x : Moment σ) : Bool :=
  match x.event, x.answer? client with
  | .start _, some (.ok ()) => true
  | _, _ => false

/-- Whether a stop comes to its end. -/
def isStop (client : Client σ) (x : Moment σ) : Bool :=
  match x.event, x.answer? client with
  | .ask, some _ | .part _, some _ => true
  | _, _ => false

end Moment

/-! ## What a worker has done -/

section Past

variable (client : Client σ) (past : List (Moment σ))

/-- The messages that the delivery loop has received, in order. -/
def received : List Message :=
  past.filterMap (Moment.received? client)

/-- The deliveries that it has put on record, in order. -/
def recordings : List Run.Recording :=
  past.filterMap Moment.recording?

/-- The handler failures that it has put on record, in order. -/
def failures : List HandlerFailure :=
  past.filterMap Moment.failure?

/-- The deliveries that it has counted, in order. -/
def counted : List Message :=
  past.filterMap Moment.counted?

/-- How often a signal has been counted down, by this worker or by others. -/
def countDowns (id : SignalId) : Nat :=
  past.countP fun x => x.countedOn? == some id

/-- What the handle has asked of its broker, in order. -/
def deeds : List Deed :=
  past.flatMap (Moment.deeds client)

end Past

end Worker

end DeliveryBench
