import DeliveryBench.Broker.Script
import DeliveryBench.Run

/-!
One way to run a scenario: the runner and the delivery loops take turns, and time passes only when
nobody else can do anything.

The runner goes on until it has to wait. Then every loop has a turn, in which it goes on until it
waits itself, at the latest for the handling of the next message (`Run.turn`). A timeout of zero
leaves the loops no turn: it runs out at once (`Run.isHasty`).

All this is made of the steps of `Run.step`, so it is one of the runs that can happen
(`Run.execute_reachable`). It is the one that shows when deliveries take no time. On a scripted
broker a run is over within `Plan.allowance` rounds, because each round takes a step at least: each
delivery takes four, a message leads to two deliveries at most, and each worker, signal and phase
takes a few more.
-/

namespace DeliveryBench

/-- A number of rounds within which a run on this broker is over. -/
def Plan.allowance (plan : Plan ScriptedBroker) (s : ScriptedBroker) : Nat :=
  let deliveries := s.broker.held.length + 2 * plan.scenario.messages.length
  4 * deliveries + plan.scenario.messages.length + 12 * plan.scenario.workers.length
    + plan.scenario.signals.length + 16

namespace Run

variable {σ : Type}

/-! ## Turns -/

/-- Whether the worker at a place is handling a message. -/
def isHandling (r : Run σ) (index : Nat) : Bool :=
  r.workers[index]?.any fun w => w.loop.any Loop.isHandling

/-- Lets a loop go on with at most so many steps, but not beyond taking a message. -/
def goOn (plan : Plan σ) (index : Nat) : Nat → Run σ → Run σ
  | 0, r => r
  | steps + 1, r =>
    if r.isHandling index then r
    else
      match r.step plan (.worker index) with
      | none => r
      | some next => goOn plan index steps next

/-- Gives the loop of the worker at a place its turn, if it can do anything: it finishes with the
message that it has been handling, and takes the next. -/
def turn (plan : Plan σ) (r : Run σ) (index : Nat) : Option (Run σ) :=
  (r.step plan (.worker index)).map (goOn plan index 3)

/-- Gives some loops their turns, one after the other, if any of them can do anything. -/
def turns (plan : Plan σ) : List Nat → Run σ → Option (Run σ)
  | [], _ => none
  | index :: rest, r =>
    match r.turn plan index with
    | none => turns plan rest r
    | some next => some ((turns plan rest next).getD next)

/-! ## Rounds -/

/-- The places of the workers. -/
def places (r : Run σ) : List Nat :=
  List.range r.workers.length

/-- Whether the timeout that is running runs out at once. -/
def isHasty (plan : Plan σ) (r : Run σ) : Bool :=
  match r.stage with
  | .waiting _ => plan.settings.waitTimeout.isZero
  | .awaiting index => r.workers[index]?.any fun w => w.stopTimeout.isZero
  | _ => false

/-- One round. While the workers settle, they go on until nobody can. Where the runner waits, it
looks first whether it still has to, and a timeout that runs out at once leaves it that one look.
When a loop is aborted, the others have a turn before the runner goes on. -/
def round (plan : Plan σ) (r : Run σ) : Option (Run σ) :=
  match r.stage with
  | .settling =>
    if plan.settings.startupSettle.isZero then r.step plan .runner
    else r.turns plan r.places <|> r.step plan .runner
  | .waiting _ | .awaiting _ =>
    if r.isHasty plan then r.step plan .timeout <|> r.step plan .runner
    else r.step plan .runner <|> r.turns plan r.places <|> r.step plan .timeout
  | .abandoning index => ((r.turns plan (r.places.erase index)).getD r).step plan .runner
  | _ => r.step plan .runner

/-- Goes on for at most so many rounds, and stops when nobody can do anything. -/
def execute (plan : Plan σ) : Nat → Run σ → Run σ
  | 0, r => r
  | fuel + 1, r =>
    match r.round plan with
    | none => r
    | some next => execute plan fuel next

/-- Runs a scenario on a scripted broker to its end. -/
def complete (plan : Plan ScriptedBroker) (s : ScriptedBroker) : Run ScriptedBroker :=
  execute plan (plan.allowance s) (initial plan s)

/-- The report of a run that has ended, or the text with which it broke down. -/
def result? (r : Run σ) : Option (Except String Report) :=
  match r.stage with
  | .done report => some (.ok report)
  | .crashed text => some (.error text)
  | _ => none

/-- Whole milliseconds that have passed. -/
def clockMillis (r : Run σ) : Nat :=
  r.clock / 1000000

/-! ## Every round is made of steps -/

variable {plan : Plan σ} {broker : σ}

theorem goOn_reachable {r : Run σ} (h : Reachable plan broker r) (index steps : Nat) :
    Reachable plan broker (goOn plan index steps r) := by
  induction steps generalizing r with
  | zero => exact h
  | succ steps ih =>
    unfold goOn
    split
    · exact h
    · split
      · exact h
      · rename_i next taken
        exact ih (h.step _ taken)

theorem turn_reachable {r next : Run σ} {index : Nat} (h : Reachable plan broker r)
    (taken : r.turn plan index = some next) : Reachable plan broker next := by
  rcases Option.map_eq_some_iff.1 taken with ⟨first, step, rfl⟩
  exact goOn_reachable (h.step _ step) index 3

theorem turns_reachable {r next : Run σ} {places : List Nat} (h : Reachable plan broker r)
    (taken : r.turns plan places = some next) : Reachable plan broker next := by
  induction places generalizing r next with
  | nil => cases taken
  | cons index rest ih =>
    unfold turns at taken
    split at taken
    · exact ih h taken
    · rename_i first turned
      have later := turn_reachable h turned
      cases others : turns plan rest first with
      | none => rw [others] at taken; cases taken; exact later
      | some last => rw [others] at taken; cases taken; exact ih later others

theorem eq_some_of_orElse {a b : Option (Run σ)} {r : Run σ} (either : (a <|> b) = some r) :
    a = some r ∨ b = some r := by
  cases a with
  | none => exact .inr either
  | some _ => exact .inl either

theorem round_reachable {r next : Run σ} (h : Reachable plan broker r)
    (taken : r.round plan = some next) : Reachable plan broker next := by
  have waiting (taken : (if r.isHasty plan then r.step plan .timeout <|> r.step plan .runner
      else r.step plan .runner <|> r.turns plan r.places <|> r.step plan .timeout) = some next) :
      Reachable plan broker next := by
    split at taken
    · exact (eq_some_of_orElse taken).elim (h.step _) (h.step _)
    · rcases eq_some_of_orElse taken with step | later
      · exact h.step _ step
      · exact (eq_some_of_orElse later).elim (turns_reachable h) (h.step _)
  unfold round at taken
  split at taken
  · split at taken
    · exact h.step _ taken
    · exact (eq_some_of_orElse taken).elim (turns_reachable h) (h.step _)
  · exact waiting taken
  · exact waiting taken
  · rename_i index _
    cases others : r.turns plan (r.places.erase index) with
    | none => rw [others] at taken; exact h.step _ taken
    | some later => rw [others] at taken; exact (turns_reachable h others).step _ taken
  · exact h.step _ taken

theorem execute_reachable {r : Run σ} (h : Reachable plan broker r) (fuel : Nat) :
    Reachable plan broker (execute plan fuel r) := by
  induction fuel generalizing r with
  | zero => exact h
  | succ fuel ih =>
    unfold execute
    split
    · exact h
    · rename_i next taken
      exact ih (round_reachable h taken)

end Run

end DeliveryBench
