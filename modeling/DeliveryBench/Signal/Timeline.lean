import DeliveryBench.Signal
import DeliveryBench.Ordering
import DeliveryBench.Duration

/-!
Waiting for a signal in virtual time.

A `Timeline` is a signal, a clock that counts nanoseconds, the waits that have been started on it,
and an agenda of countdowns that will happen by themselves. A wait is answered at most once: with
success when the count is zero at its start or a countdown brings it to zero, with failure when the
clock reaches its deadline (`Timeline.advanceTo`). A countdown that completes the signal answers
every pending wait at once (`Timeline.countDown`).

Waits and pauses may take any `Duration`, but timers go off only at ticks: the deadline of a wait is
the first tick that does not lie before the end of its time (`Runtime.goesOff`), which is the end
itself if that is a tick. If the clock cannot tell so late a time, the wait is given a shorter one
(`Timeline.alarm`).

`Timeline.await` lets time pass, from one agenda entry to the next, until a set of waits with one
deadline has been answered. At the deadline the waits come first, and then what is due at the same
time. But only so many waits fail at one go (`Runtime.turnLimit`); the others fail after what is due
has happened, if it has not made them succeed (`Timeline.expire`).
-/

namespace DeliveryBench

/-- What the asynchronous runtime has to say about timers and turns. Of a runtime with other numbers
everything holds just as well. By default timers have their documented granularity, a millisecond,
the clock has 63 bits for the seconds, a wait that would end later is given thirty years, and a task
has a budget of 128, after which it has to let the others go on. -/
structure Runtime where
  /-- Timers go off only at multiples of so many nanoseconds. -/
  tick : Nat := 1000000
  /-- The first nanosecond that the clock cannot tell. -/
  horizon : Nat := Word.limit / 2 * 1000000000
  /-- The nanoseconds that a wait is given if it would end beyond the horizon. -/
  farFuture : Nat := Duration.longestPause.toNanos
  /-- How many waits fail at one go. -/
  turnLimit : Nat := 128
  tick_pos : 0 < tick := by exact Nat.zero_lt_succ _
  turnLimit_pos : 0 < turnLimit := by exact Nat.zero_lt_succ _
deriving DecidableEq

namespace Runtime

/-- When a timer goes off that has been set to a time: at the first tick from then on. -/
def goesOff (r : Runtime) (time : Nat) : Nat :=
  (time + (r.tick - 1)) / r.tick * r.tick

theorem le_goesOff (r : Runtime) (time : Nat) : time ≤ r.goesOff time := by
  have whole := Nat.div_add_mod (time + (r.tick - 1)) r.tick
  have rest := Nat.mod_lt (time + (r.tick - 1)) r.tick_pos
  unfold goesOff
  rw [Nat.mul_comm]
  omega

theorem goesOff_lt (r : Runtime) (time : Nat) : r.goesOff time < time + r.tick := by
  have upTo := Nat.div_mul_le_self (time + (r.tick - 1)) r.tick
  have some := r.tick_pos
  unfold goesOff
  omega

end Runtime

/-- A wait that has been started. -/
structure Waiter where
  /-- When its timer goes off. -/
  deadline : Nat
  /-- How the wait ended, if it has. -/
  answer : Option Bool := none
deriving DecidableEq, Repr

/-- Countdowns that happen at a time to come. -/
structure Appointment where
  time : Nat
  times : Nat
deriving DecidableEq, Repr

/-- Countdowns that are to happen after a pause. -/
structure Arrangement where
  pause : Duration
  times : Nat
deriving DecidableEq

/-- A signal in virtual time. -/
structure Timeline where
  signal : Signal
  runtime : Runtime := {}
  /-- The time by the clock, in nanoseconds. -/
  now : Nat := 0
  waiters : List Waiter := []
  /-- What is still to happen, the earliest first. -/
  agenda : List Appointment := []
  /-- How many more waits can fail before what is due happens. -/
  credit : Nat := runtime.turnLimit
deriving DecidableEq

namespace Timeline

/-- Answers a wait that has no answer yet. -/
def Waiter.settle (answer : Bool) (w : Waiter) : Waiter :=
  match w.answer with
  | none => { w with answer := some answer }
  | some _ => w

/-- Counts one delivery; if that was the last one, every pending wait succeeds. The result is what
is left. -/
def countDown (t : Timeline) : Nat × Timeline :=
  let (left, signal) := t.signal.countDown
  (left, { t with
    signal
    waiters := if signal.isComplete then t.waiters.map (Waiter.settle true) else t.waiters })

/-- Counts several deliveries. -/
def countDownTimes : Nat → Timeline → Timeline
  | 0, t => t
  | n + 1, t => countDownTimes n t.countDown.2

/-- When a timer goes off that is set now for so many nanoseconds. -/
def alarm (t : Timeline) (span : Nat) : Nat :=
  t.runtime.goesOff
    (t.now + if t.now + span < t.runtime.horizon then span else t.runtime.farFuture)

theorem now_le_alarm (t : Timeline) (span : Nat) : t.now ≤ t.alarm span :=
  Nat.le_trans (Nat.le_add_right t.now _) (t.runtime.le_goesOff _)

/-- Starts a wait that may take so long. -/
def startWait (t : Timeline) (timeout : Duration) : Timeline :=
  let answer := if t.signal.isComplete then some true else none
  { t with waiters := t.waiters ++ [{ deadline := t.alarm timeout.toNanos, answer }] }

/-- Lets the clock reach a time; the pending waits whose deadline it passes fail. -/
def advanceTo (t : Timeline) (time : Nat) : Timeline :=
  { t with
    now := time
    waiters := t.waiters.map fun w => if w.deadline ≤ time then Waiter.settle false w else w }

/-- Arranges for countdowns to happen after pauses that begin now, or after the longest pause if
that is shorter. -/
def schedule (t : Timeline) (arrangements : List Arrangement) : Timeline :=
  let longest := Duration.longestPause.toNanos
  let added := arrangements.map fun a => ⟨t.alarm (min a.pause.toNanos longest), a.times⟩
  { t with agenda := sortBy (fun a b => decide (a.time ≤ b.time)) (t.agenda ++ added) }

/-- Whether some wait has no answer yet. -/
def hasPending (t : Timeline) : Bool :=
  t.waiters.any fun w => w.answer.isNone

/-- Keeps the appointments of an agenda that lie before a time, as long as somebody waits. -/
def keep : List Appointment → Nat → Timeline → Timeline
  | [], _, t => { t with agenda := [] }
  | a :: rest, time, t =>
    if a.time < time ∧ t.hasPending = true then
      keep rest time (countDownTimes a.times (t.advanceTo a.time))
    else { t with agenda := a :: rest }

/-- Lets everything happen that is due. -/
def happenDue (t : Timeline) : Timeline :=
  let (due, later) := t.agenda.partition fun a => a.time ≤ t.now
  due.foldl (fun t a => countDownTimes a.times t) { t with agenda := later }

/-- Fails the pending waits among some, in their order, while there is credit; also gives what is
left of it. -/
def failFirst : Nat → List Waiter → Nat × List Waiter
  | credit, [] => (credit, [])
  | credit, w :: rest =>
    match credit, w.answer with
    | 0, _ => (0, w :: rest)
    | credit + 1, none =>
      let (left, rest) := failFirst credit rest
      (left, Waiter.settle false w :: rest)
    | credit + 1, some _ =>
      let (left, rest) := failFirst (credit + 1) rest
      (left, w :: rest)

/-- Lets the pending waits fail, in at most so many goes. -/
def expire : Nat → Timeline → Timeline
  | 0, t => t
  | goes + 1, t =>
    let (credit, waiters) := failFirst t.credit t.waiters
    let t := { t with credit, waiters }
    if t.hasPending then expire goes { t.happenDue with credit := t.runtime.turnLimit } else t

/-- The result of waiting. -/
structure Waited where
  /-- How each wait ended. -/
  completed : List Bool
  /-- How long it took until all had ended. -/
  after : Duration

/-- Starts so many waits with one timeout and lets time pass until they have ended. -/
def await (t : Timeline) (timeout : Duration) (waits : Nat) (arrangements : List Arrangement) :
    Waited × Timeline :=
  let deadline := t.alarm timeout.toNanos
  let begun := Nat.repeat (startWait · timeout) waits
    { t.schedule arrangements with waiters := [] }
  let kept := keep begun.agenda deadline begun
  let credit := if deadline = t.now then kept.credit else t.runtime.turnLimit
  let ended :=
    if kept.hasPending then expire (waits + 2) { kept with now := deadline, credit } else kept
  (⟨ended.waiters.map fun w => w.answer.getD false, .ofNanos (ended.now - t.now)⟩, ended)

end Timeline

end DeliveryBench
