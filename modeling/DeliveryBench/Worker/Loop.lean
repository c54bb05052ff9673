import DeliveryBench.World

/-!
The delivery loop of a worker, one step at a time.

The loop polls its subscription, has the message handled, records the delivery, records the failure
if there was one, counts the delivery on the signal, and polls again. Each of these is one step
(`Loop.step`), so that the steps of several loops, and of whoever drives them, can come in any
order in between.

A request to stop is looked at before every poll. Aborting takes effect only where the loop waits:
at a poll or while a message is being handled (`Loop.abort?`).

Caveat: `Loop.poll` looks for a request to stop and polls in one step. Where loops share several
threads, a request can come between the two, and the loop then begins with one more message before
it heeds the request.
-/

namespace DeliveryBench

/-- How a delivery loop ended. -/
inductive Ending where
  /-- It was asked to stop, or its subscription ended. -/
  | finished
  /-- It broke down, with this text if there is one. -/
  | crashed (text : Option String)
  | aborted
deriving DecidableEq, Repr

/-- Where a delivery loop is. -/
inductive Phase where
  /-- About to poll. -/
  | idle
  | handling (m : Message) (reaction : Reaction)
  /-- The delivery has been recorded under a number. -/
  | observed (m : Message) (sequence : Nat) (verdict : Verdict)
  /-- All there is to record has been; the delivery is still to be counted. -/
  | recorded (m : Message)
  | ended (ending : Ending)
deriving DecidableEq

/-- A delivery loop. -/
structure Loop where
  spec : WorkerSpec
  ticket : Ticket
  stopRequested : Bool := false
  /-- How often the handler has been called. -/
  calls : Nat := 0
  phase : Phase := .idle

namespace Loop

variable {σ : Type}

/-- The end of the loop, if it has ended. -/
def ending? (l : Loop) : Option Ending :=
  match l.phase with
  | .ended ending => some ending
  | _ => none

/-- Begins with a message. -/
def take (l : Loop) (m : Message) : Loop :=
  { l with
    phase := .handling m (l.spec.react l.calls m)
    calls := if l.spec.calls m then l.calls + 1 else l.calls }

/-- Polls, unless it has been asked to stop. -/
def poll (client : Client σ) (l : Loop) (w : World σ) : Option (Loop × World σ) :=
  if l.stopRequested then some ({ l with phase := .ended .finished }, w)
  else
    match client.receive l.ticket w.broker with
    | (.message m, broker) => some (l.take m, w.withBroker broker)
    | (.pending, _) => none
    | (.ended, broker) => some ({ l with phase := .ended .finished }, w.withBroker broker)
    | (.crashed text, broker) =>
      some ({ l with phase := .ended (.crashed (some text)) }, w.withBroker broker)

/-- Records a delivery once its handling is through. -/
def observe (l : Loop) (m : Message) (reaction : Reaction) (w : World σ) :
    Option (Loop × World σ) :=
  if w.isOpen reaction.gate then
    let (sequence, journal) := w.journal.record l.spec.name m
    some ({ l with phase := .observed m sequence reaction.verdict }, { w with journal })
  else none

/-- Records the failure of a delivery, if it failed. An error of which no text can be made breaks
the loop down. -/
def recordFailure (l : Loop) (m : Message) (sequence : Nat) (verdict : Verdict) (w : World σ) :
    Loop × World σ :=
  match verdict with
  | .unprintable text => ({ l with phase := .ended (.crashed text) }, w)
  | _ =>
    match verdict.failure? with
    | none => ({ l with phase := .recorded m }, w)
    | some reason =>
      ({ l with phase := .recorded m },
        { w with journal := w.journal.recordFailure l.spec.name m sequence reason })

/-- Does the next thing, if there is one to do. -/
def step (client : Client σ) (l : Loop) (w : World σ) : Option (Loop × World σ) :=
  match l.phase with
  | .idle => l.poll client w
  | .handling m reaction => l.observe m reaction w
  | .observed m sequence verdict => some (l.recordFailure m sequence verdict w)
  | .recorded _ => some ({ l with phase := .idle }, w.countDown l.spec.signal)
  | .ended _ => none

/-- Aborts the loop where it can be aborted. -/
def abort? (l : Loop) : Option Loop :=
  match l.phase with
  | .idle | .handling .. => some { l with phase := .ended .aborted }
  | _ => none

/-- Whether a message is being handled. -/
def isHandling (l : Loop) : Bool :=
  match l.phase with
  | .handling .. => true
  | _ => false

/-- The gate that the handling of a message needs, if there is one. -/
def gate? (l : Loop) : Option String :=
  match l.phase with
  | .handling _ reaction => reaction.gate
  | _ => none

/-- Whether the loop waits at a gate. -/
def isBlocked (l : Loop) (w : World σ) : Bool :=
  !w.isOpen l.gate?

/-- Takes steps until none is left to take, at most so many. -/
def drain (client : Client σ) : Nat → Loop → World σ → Loop × World σ
  | 0, l, w => (l, w)
  | steps + 1, l, w =>
    match l.step client w with
    | none => (l, w)
    | some (l, w) => drain client steps l w

end Loop

end DeliveryBench
