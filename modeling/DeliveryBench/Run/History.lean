import DeliveryBench.Run

/-!
The past of a run: every step that has been taken, each with the state in which it was taken.

`Run.Through plan broker past r` says that a run on a broker has come to the state `r`, and by which
steps. What a run has done, and in which order, is read off its past: what the workers got when they
were started (`Run.joins`), which deliveries their loops have put on record (`Run.recordings`), and
how often they have counted one on a signal (`Run.countDowns`).

A run is fixed by its steps (`Run.Through.unique`). So whatever every step keeps holds from any
moment of the past on (`Run.Through.since`).
-/

namespace DeliveryBench.Run

variable {σ : Type}

/-- A step, with the state in which it is taken. -/
structure Moment (σ : Type) where
  before : Run σ
  step : Step

/-- A delivery on record: what the journal says of it, and how its handling ended. -/
structure Recording where
  observation : Observation
  verdict : Verdict

namespace Moment

/-- The delivery loop that takes the step. -/
def loop? (x : Moment σ) : Option Loop :=
  match x.step with
  | .worker index => x.before.workers[index]?.bind Worker.loop
  | _ => none

/-- The delivery that a step puts on record. -/
def recording? (x : Moment σ) : Option Recording :=
  match x.loop? with
  | none => none
  | some l =>
    match l.phase with
    | .handling m reaction =>
      some ⟨⟨l.spec.name, m.id, m.payload, m.key, x.before.world.journal.next⟩, reaction.verdict⟩
    | _ => none

/-- What a step that starts a worker gets from the broker. -/
def joined? (plan : Plan σ) (x : Moment σ) : Option (Except BrokerError Ticket) :=
  match x.step, x.before.stage with
  | .runner, .starting (_ :: _) =>
    some (plan.client.subscribe plan.scenario.target x.before.world.broker).1
  | _, _ => none

/-- The signal on which a step counts a delivery. -/
def countedOn? (x : Moment σ) : Option SignalId :=
  match x.loop? with
  | none => none
  | some l =>
    match l.phase with
    | .recorded _ => l.spec.signal
    | _ => none

end Moment

/-- What the workers that have been started got from the broker, in order. -/
def joins (plan : Plan σ) (past : List (Moment σ)) : List (Except BrokerError Ticket) :=
  past.filterMap fun x => x.joined? plan

/-- The deliveries that the worker at a place has put on record, oldest first. -/
def recordings (past : List (Moment σ)) (place : Nat) : List Recording :=
  (past.filter fun x => x.step = .worker place).filterMap Moment.recording?

/-- How many deliveries have been counted on a signal. -/
def countDowns (past : List (Moment σ)) (id : SignalId) : Nat :=
  past.countP fun x => x.countedOn? == some id

/-- The states that a run on a broker can come to, each with its past, oldest step first. -/
inductive Through (plan : Plan σ) (broker : σ) : List (Moment σ) → Run σ → Prop where
  | initial : Through plan broker [] (initial plan broker)
  | step {past : List (Moment σ)} {r r' : Run σ} (s : Step) : Through plan broker past r →
    r.step plan s = some r' → Through plan broker (past ++ [⟨r, s⟩]) r'

variable {plan : Plan σ} {broker : σ} {past past' : List (Moment σ)} {r r' : Run σ}

theorem Through.reachable (through : Through plan broker past r) : Reachable plan broker r := by
  induction through with
  | initial => exact .initial
  | step s _ taken ih => exact ih.step s taken

theorem Reachable.through (reachable : Reachable plan broker r) :
    ∃ past, Through plan broker past r := by
  induction reachable with
  | initial => exact ⟨[], .initial⟩
  | step s _ taken ih =>
      obtain ⟨past, through⟩ := ih
      exact ⟨_, through.step s taken⟩

/-- Every moment of the past has a past of its own, and its step could be taken. -/
theorem Through.moment {earlier later : List (Moment σ)} {x : Moment σ}
    (through : Through plan broker (earlier ++ x :: later) r) :
    Through plan broker earlier x.before ∧ ∃ next, x.before.step plan x.step = some next := by
  generalize whole : earlier ++ x :: later = past at through
  induction through generalizing later with
  | initial => exact absurd whole (by simp)
  | @step past r r' s through taken ih =>
      rcases List.eq_nil_or_concat later with rfl | ⟨front, last, rfl⟩
      · obtain ⟨rfl, same⟩ := List.append_inj' whole rfl
        cases same
        exact ⟨through, r', taken⟩
      · rw [List.concat_eq_append, ← List.cons_append, ← List.append_assoc] at whole
        exact ih (List.append_inj' whole rfl).1

theorem Through.before {earlier later : List (Moment σ)} {x : Moment σ}
    (through : Through plan broker (earlier ++ x :: later) r) :
    Through plan broker earlier x.before :=
  through.moment.1

/-- Whatever steps can be taken lead on to a state, and none of the past is lost. -/
theorem Through.steps {taken : List Step} (through : Through plan broker past r)
    (run : r.steps plan taken = some r') : ∃ later, Through plan broker (past ++ later) r' := by
  induction taken generalizing past r with
  | nil =>
      cases run
      exact ⟨[], by rwa [List.append_nil]⟩
  | cons s rest ih =>
      rcases Option.bind_eq_some_iff.1 run with ⟨next, first, others⟩
      obtain ⟨later, through'⟩ := ih (through.step s first) others
      exact ⟨⟨r, s⟩ :: later, by rwa [List.append_cons]⟩

/-- The same steps lead to the same state. -/
theorem Through.unique (through : Through plan broker past r)
    (through' : Through plan broker past' r')
    (steps : past'.map Moment.step = past.map Moment.step) : past' = past ∧ r' = r := by
  induction through generalizing past' r' with
  | initial =>
      cases through' with
      | initial => exact ⟨rfl, rfl⟩
      | step => simp at steps
  | step s _ taken ih =>
      cases through' with
      | initial => simp at steps
      | step s' earlier taken' =>
          rw [List.map_append, List.map_append] at steps
          obtain ⟨before, last⟩ := List.append_inj' steps rfl
          obtain ⟨rfl, rfl⟩ := ih earlier before
          obtain rfl : s' = s := List.singleton_inj.1 last
          obtain rfl := Option.some.inj (taken'.symm.trans taken)
          exact ⟨rfl, rfl⟩

/-- What holds at some point of a run, and is kept by every step, holds from there on. -/
theorem Through.onward {motive : Run σ → Prop} (through : Through plan broker past r)
    (start : motive r) (step : ∀ r s r', motive r → r.step plan s = some r' → motive r')
    {further : List (Moment σ)} (through' : Through plan broker (past ++ further) r') :
    motive r' := by
  generalize whole : past ++ further = all at through'
  induction through' generalizing further with
  | initial =>
      obtain ⟨rfl, rfl⟩ := List.append_eq_nil_iff.1 whole
      obtain ⟨-, rfl⟩ := Through.initial.unique through rfl
      exact start
  | @step before r₁ r' s through₁ taken ih =>
      rcases List.eq_nil_or_concat further with rfl | ⟨front, last, rfl⟩
      · rw [List.append_nil] at whole
        subst whole
        obtain ⟨-, rfl⟩ := (through₁.step s taken).unique through rfl
        exact start
      · rw [List.concat_eq_append, ← List.append_assoc] at whole
        exact step r₁ s r' (ih (List.append_inj' whole rfl).1) taken

/-- What holds at some moment of the past, and is kept by every step, holds now. -/
theorem Through.since {motive : Run σ → Prop} (through : Through plan broker past r)
    (step : ∀ r s r', motive r → r.step plan s = some r' → motive r') :
    ∀ x ∈ past, motive x.before → motive r := by
  intro x member start
  obtain ⟨earlier, later, rfl⟩ := List.append_of_mem member
  exact through.before.onward start step through

end DeliveryBench.Run
