import DeliveryBench.Signal.Timeline

/-!
What can happen to a signal in virtual time, in any order.

`Timeline.Happens` is what one event makes of a signal and of the waits on it. Countdowns, waits and
appointments are asked for from outside (`Event.ask?`), as often and in whatever order; the rest
comes about by itself. An event that counts down bears what the countdown returned (`Event.left?`).
The clock goes on (`Event.advance`, `Event.reach`), but past no appointment and past no deadline
without an answer to the wait; waits whose deadline has come fail one by one (`Event.fail`), and a
due appointment counts down one by one (`Event.due`).

`Timeline.Leads t past t'` says that `t` comes to `t'` by these events, oldest first.

Whoever uses a signal asks for one thing after the other (`Request`) and is answered
(`Timeline.serve`).
-/

namespace DeliveryBench

namespace Timeline

/-! ## Events -/

/-- Something that is asked for from outside. -/
inductive Ask where
  | countDown
  /-- A wait starts that may take so long. -/
  | startWait (timeout : Duration)
  /-- Countdowns are arranged for. -/
  | schedule (arrangements : List Arrangement)
deriving DecidableEq

/-- Something that happens to a signal or to the waits on it. -/
inductive Event where
  /-- A countdown that is asked for, with what it returns. -/
  | countDown (left : Nat)
  | startWait (timeout : Duration)
  | schedule (arrangements : List Arrangement)
  /-- The clock goes on, and the waits whose deadline it comes to or passes fail. -/
  | advance (time : Nat)
  /-- The clock goes on, but past no deadline, and nobody has noticed it yet. -/
  | reach (time : Nat)
  /-- The wait at a place fails. -/
  | fail (place : Nat)
  /-- The first appointment counts down once, with what that returns. -/
  | due (left : Nat)
  /-- The first appointment has been kept and is struck off. -/
  | clear
  /-- So many waits can fail before what is due happens. -/
  | turn (credit : Nat)
deriving DecidableEq

namespace Event

/-- What was asked for, if it was asked for from outside. -/
def ask? : Event → Option Ask
  | .countDown _ => some .countDown
  | .startWait timeout => some (.startWait timeout)
  | .schedule arrangements => some (.schedule arrangements)
  | _ => none

/-- What is returned to whoever asked for a countdown. -/
def reply? : Event → Option Nat
  | .countDown left => some left
  | _ => none

/-- What a countdown returns, whether it was asked for or arranged. -/
def left? : Event → Option Nat
  | .countDown left | .due left => some left
  | _ => none

/-- Whether an event counts down. -/
def countsDown (event : Event) : Bool :=
  event.left?.isSome

end Event

/-- The clock can go on to a time without passing an appointment. -/
structure ClearUntil (t : Timeline) (time : Nat) : Prop where
  onward : t.now ≤ time
  appointments : ∀ a ∈ t.agenda, time ≤ a.time

/-- What an event makes of a timeline, if it can happen. -/
inductive Happens (t : Timeline) : Event → Timeline → Prop where
  | countDown : Happens t (.countDown t.countDown.1) t.countDown.2
  | startWait (timeout : Duration) : Happens t (.startWait timeout) (t.startWait timeout)
  | schedule (arrangements : List Arrangement) :
    Happens t (.schedule arrangements) (t.schedule arrangements)
  | advance {time : Nat} : t.ClearUntil time → Happens t (.advance time) (t.advanceTo time)
  | reach {time : Nat} : t.ClearUntil time →
    (∀ w ∈ t.waiters, w.answer = none → time ≤ w.deadline) →
    Happens t (.reach time) { t with now := time }
  | fail {place : Nat} {w : Waiter} : t.waiters[place]? = some w → w.answer = none →
    w.deadline ≤ t.now →
    Happens t (.fail place) { t with waiters := t.waiters.set place (Waiter.settle false w) }
  | due {time times : Nat} {rest : List Appointment} : t.agenda = ⟨time, times + 1⟩ :: rest →
    time ≤ t.now →
    Happens t (.due t.countDown.1) { t.countDown.2 with agenda := ⟨time, times⟩ :: rest }
  | clear {time : Nat} {rest : List Appointment} : t.agenda = ⟨time, 0⟩ :: rest →
    Happens t .clear { t with agenda := rest }
  | turn (credit : Nat) : Happens t (.turn credit) { t with credit }

/-- The events by which one timeline comes to another, oldest first. -/
inductive Leads (t : Timeline) : List Event → Timeline → Prop where
  | here : Leads t [] t
  | on {past : List Event} {t' t'' : Timeline} {event : Event} :
    Leads t past t' → Happens t' event t'' → Leads t (past ++ [event]) t''

/-- A signal on which nothing has happened yet. -/
def start (runtime : Runtime) (expected : Nat) : Timeline :=
  { signal := .fresh expected, runtime }

/-- What holds of a signal, and of the waits on it, after these events. -/
structure Exact (expected : Nat) (past : List Event) (t : Timeline) : Prop where
  /-- The count is what is left of the number that is expected. -/
  count : t.signal.count = expected - past.countP Event.countsDown
  /-- The first countdown has returned what was left after one, the second what was left after two,
  and so on. -/
  returned : past.filterMap Event.left? =
    (List.range (past.countP Event.countsDown)).map fun earlier => expected - (earlier + 1)
  /-- Nothing but a countdown changes the signal. -/
  steady : ∀ event t', Happens t event t' → event.countsDown = false → t'.signal = t.signal
  /-- With the count at zero nobody waits any longer, so it was a countdown that brought it there,
  and every wait that was pending has succeeded by it. -/
  released : ∀ event t', Happens t event t' → t'.signal.count = 0 → ∀ (place : Nat) (w : Waiter),
    t.waiters[place]? = some w → w.answer = none →
      event.countsDown = true ∧ t'.waiters[place]? = some { w with answer := some true }
  /-- A wait that starts now has succeeded for good if the count is zero now or at any moment before
  the deadline, and has failed for good if it is not zero at a moment after the deadline. -/
  waits : ∀ timeout between later t' t'', Leads (t.startWait timeout) between t' →
    Leads t' later t'' → ∃ w, t''.waiters[t.waiters.length]? = some w ∧
      w.deadline = t.alarm timeout.toNanos ∧
      (t.signal.count = 0 ∨ t'.signal.count = 0 ∧ t'.now < w.deadline → w.answer = some true) ∧
      (t'.signal.count ≠ 0 ∧ w.deadline < t'.now → w.answer = some false)
  /-- After a wait has succeeded, every wait that starts does. -/
  complete : (∃ w ∈ t.waiters, w.answer = some true) → ∀ timeout later t',
    Leads (t.startWait timeout) later t' →
      ∃ w, t'.waiters[t.waiters.length]? = some w ∧ w.answer = some true
  /-- An answer is final. -/
  final : ∀ (place : Nat) (w : Waiter), t.waiters[place]? = some w → w.answer ≠ none →
    ∀ later t', Leads t later t' → t'.waiters[place]? = some w

/-! ## Requests -/

/-- What is asked of a signal. -/
inductive Request where
  | countDown
  /-- So many waits with one timeout, to be answered before the next request, and countdowns that
  are arranged for at their start. -/
  | wait (timeout : Duration) (waits : Nat) (arrangements : List Arrangement)
deriving DecidableEq

/-- What a request asks for. -/
def Request.asks : Request → List Ask
  | .countDown => [.countDown]
  | .wait timeout waits arrangements =>
    .schedule arrangements :: List.replicate waits (.startWait timeout)

/-- The answers to requests. -/
structure Replies where
  /-- What the countdowns returned. -/
  left : List Nat := []
  /-- How the waits ended. -/
  completed : List Bool := []
deriving DecidableEq

/-- Replies, followed by others. -/
def Replies.append (replies others : Replies) : Replies :=
  ⟨replies.left ++ others.left, replies.completed ++ others.completed⟩

/-- Answers a request. -/
def answer (t : Timeline) : Request → Replies × Timeline
  | .countDown =>
    let (left, t) := t.countDown
    ({ left := [left] }, t)
  | .wait timeout waits arrangements =>
    let (waited, t) := t.await timeout waits arrangements
    ({ completed := waited.completed }, t)

/-- Answers requests one after the other. -/
def serve : Timeline → List Request → Replies × Timeline
  | t, [] => ({}, t)
  | t, request :: rest =>
    let (replies, t) := t.answer request
    let (others, t) := serve t rest
    (replies.append others, t)

end Timeline

end DeliveryBench
