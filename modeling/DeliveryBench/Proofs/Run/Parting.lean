import DeliveryBench.Proofs.Run.Diary
import DeliveryBench.Proofs.Run.Log
import DeliveryBench.Proofs.Run.Progress
import DeliveryBench.Proofs.Run.Verdict
import Mathlib.Data.List.TakeWhile

/-!
# Plans that part at the teardown

Two plans may differ only in what giving subscriptions back, and closing, come to
(`Plan.SameUpToTeardown`). Until a run turns to its teardown, it cannot tell which of them it follows
(`Through.of_same`), and after that nothing of what has been decided changes
(`Through.decision_eq`). So two runs that take the same steps up to the teardown are decided in the
same way, and have published the same messages (`Through.decision_eq_of_same`); and to every run of
the one plan there is such a run of the other (`Through.exists_counterpart`).
-/

namespace DeliveryBench

variable {σ : Type}

/-- Two plans that differ at most in what is asked of the client during the teardown. -/
structure Plan.SameUpToTeardown (plan other : Plan σ) : Prop where
  scenario : other.scenario = plan.scenario
  settings : other.settings = plan.settings
  subscribe : other.client.subscribe = plan.client.subscribe
  receive : other.client.receive = plan.client.receive
  advance : other.client.advance = plan.client.advance
  producer : other.producer = plan.producer

theorem Plan.SameUpToTeardown.symm {plan other : Plan σ}
    (same : plan.SameUpToTeardown other) :
    other.SameUpToTeardown plan where
  scenario := same.scenario.symm
  settings := same.settings.symm
  subscribe := same.subscribe.symm
  receive := same.receive.symm
  advance := same.advance.symm
  producer := same.producer.symm

theorem Plan.SameUpToTeardown.logged {plan other : Plan σ}
    (same : plan.SameUpToTeardown other) :
    plan.logged.SameUpToTeardown other.logged where
  scenario := same.scenario
  settings := same.settings
  subscribe := by
    unfold Plan.logged Client.logged
    rw [same.subscribe]
  receive := by
    unfold Plan.logged Client.logged
    rw [same.receive]
  advance := by
    unfold Plan.logged Client.logged
    rw [same.advance]
  producer := by
    unfold Plan.logged
    rw [same.producer]

namespace Run

/-- The steps of a run up to its teardown. -/
def upToTeardown (past : List (Moment σ)) : List (Moment σ) :=
  past.takeWhile fun x => !x.before.stage.isDecided

variable {plan other : Plan σ} {broker : σ} {past past' : List (Moment σ)} {r r' : Run σ}

/-! ## Up to the teardown -/

theorem step_of_same (same : plan.SameUpToTeardown other)
    (undecided : r.stage.isDecided = false) (s : Step) : r.step other s = r.step plan s := by
  obtain ⟨scenario, settings, ⟨subscribe, receive, unsubscribe, release, close, advance⟩, producer⟩ :=
    plan
  obtain ⟨scenario', settings', ⟨subscribe', receive', unsubscribe', release', close', advance'⟩,
    producer'⟩ := other
  obtain ⟨rfl, rfl, rfl, rfl, rfl, rfl⟩ := same
  cases s with
  | runner =>
      show r.runnerStep _ = r.runnerStep _
      unfold runnerStep
      cases stage : r.stage with
      | starting rest => cases rest <;> rfl
      | publishing rest failed => cases rest <;> rfl
      | settling | waiting | overdue | verifying | judging | crashed => rfl
      | stopping | awaiting | abandoning | closing | reporting | done =>
          cases (congrArg Stage.isDecided stage).symm.trans undecided
  | timeout =>
      show r.timeoutStep _ = r.timeoutStep _
      unfold timeoutStep
      cases stage : r.stage with
      | waiting unmet => rfl
      | starting | settling | publishing | overdue | verifying | judging | stopping | awaiting
      | abandoning | closing | reporting | done | crashed => rfl
  | worker index => rfl
  | gate name => rfl
  | broker => rfl

/-- What has been decided stays decided. -/
theorem Through.decided (through : Through plan broker past r) :
    ∀ x ∈ past, x.before.stage.isDecided = true → r.stage.isDecided = true :=
  through.since (motive := fun r => r.stage.isDecided = true) fun _ _ _ decided taken =>
    ((step_course taken).stands decided).decided

/-- A run that has not turned to its teardown is as much a run of the other plan. -/
theorem Through.of_same (same : plan.SameUpToTeardown other)
    (through : Through plan broker past r)
    (undecided : ∀ x ∈ past, x.before.stage.isDecided = false) : Through other broker past r := by
  induction through with
  | initial =>
      have start : Run.initial other broker = Run.initial plan broker := by
        unfold Run.initial
        rw [same.scenario]
      rw [← start]
      exact .initial
  | @step past r r' s _ taken ih =>
      have before := undecided ⟨r, s⟩ List.mem_concat_self
      refine (ih fun x member => undecided x (List.mem_append_left _ member)).step s ?_
      rw [step_of_same same before]
      exact taken

theorem CountsFit.of_same (same : plan.SameUpToTeardown other) (fits : CountsFit plan broker) :
    CountsFit other broker := by
  intro r reachable stage
  obtain ⟨past, through⟩ := reachable.through
  have undecided : ∀ x ∈ past, x.before.stage.isDecided = false := by
    intro x member
    rw [← Bool.not_eq_true]
    intro decided
    have still := through.decided x member decided
    rw [stage] at still
    cases still
  rw [same.scenario]
  exact fits r (through.of_same same.symm undecided).reachable stage

/-! ## During the teardown -/

/-- The messages that a run has tried to publish, with the results. -/
def published (r : Run (Logged σ)) : List Deed :=
  r.world.broker.log.filter Deed.isPublished

theorem published_finishStop {plan : Plan σ} (r : Run (Logged σ)) (index : Nat) (w : Worker)
    (outcome : StopOutcome) :
    (r.finishStop plan.logged index w outcome).published = r.published := by
  cases held : w.ticket with
  | none =>
      unfold finishStop Worker.finishStop Worker.giveBack
      rw [held]
      rfl
  | some ticket =>
      rw [finishStop_of_ticket _ _ index held]
      show (r.world.broker.log ++ [_]).filter Deed.isPublished = r.world.broker.log.filter _
      rw [List.filter_append]
      exact List.append_nil _

/-- Nobody but the runner publishes. -/
theorem published_aside {plan : Plan σ} {r r' : Run (Logged σ)} {s : Step}
    (taken : r.step plan.logged s = some r') (other : s ≠ .runner) :
    r'.published = r.published := by
  cases s with
  | runner => exact absurd rfl other
  | worker index =>
      rcases workerStep_move taken with ⟨w, l, l', world, there, loop, move, rfl⟩
      exact congrArg (List.filter Deed.isPublished) move.log
  | timeout =>
      rcases timeoutStep_cases taken with ⟨unmet, stage, -, rfl⟩ | ⟨index, w, stage, there, -, rfl⟩
      · rfl
      · rfl
  | gate name =>
      cases taken
      rfl
  | broker =>
      cases taken
      rfl

/-- Nothing is published but by the steps that are there for it. -/
theorem published_step {plan : Plan σ} {r r' : Run (Logged σ)} {s : Step}
    (taken : r.step plan.logged s = some r')
    (idle : ∀ m rest failed, r.stage ≠ .publishing (m :: rest) failed) :
    r'.published = r.published := by
  by_cases runner : s = .runner
  · subst runner
    cases runnerStep_turn taken with
    | published stage | publishRefused stage | publishNoted stage => exact absurd stage (idle _ _ _)
    | startedOne =>
        unfold published
        rw [startWorker_broker]
        show (r.world.broker.log ++ [_]).filter Deed.isPublished = _
        rw [List.filter_append]
        exact List.append_nil _
    | startFailed | startedAll | settled | publishFailed | publishedAll | metAll | metSome
    | timedOut | overflowed | violated | verified | judged | stoppedAll | marked | asked
    | reported => rfl
    | ended | endedLate | aborted => exact published_finishStop _ _ _ _
    | closed =>
        show (r.world.broker.log ++ [_]).filter Deed.isPublished = _
        rw [List.filter_append]
        exact List.append_nil _
  · exact published_aside taken runner

/-- What is settled for good when a run turns to its teardown. -/
structure Decision where
  outcome : Except Failure Unit
  transitions : List RunPhase
  startFailures : List Failure
  published : List Deed

def decision (r : Run (Logged σ)) : Decision :=
  ⟨r.outcome, r.transitions, r.startFailures, r.published⟩

section Logged

variable {plan other : Plan σ} {broker : Logged σ} {past past' : List (Moment (Logged σ))}
  {r r' : Run (Logged σ)} {s : Step}

theorem decision_step (taken : r.step plan.logged s = some r')
    (decided : r.stage.isDecided = true) : r'.decision = r.decision := by
  have stands := (step_course taken).stands decided
  have idle : ∀ m rest failed, r.stage ≠ .publishing (m :: rest) failed := by
    intro m rest failed stage
    rw [stage] at decided
    cases decided
  unfold decision
  rw [stands.outcome, stands.transitions, stands.startFailures, published_step taken idle]

theorem Through.decision_eq (through : Through plan.logged broker past r) :
    ∀ x ∈ past, x.before.stage.isDecided = true → r.decision = x.before.decision := by
  intro x member decided
  refine (through.since (motive := fun r => r.stage.isDecided = true ∧
    r.decision = x.before.decision) ?_ x member ⟨decided, rfl⟩).2
  rintro r₁ s r₂ ⟨decided, same⟩ taken
  exact ⟨((step_course taken).stands decided).decided, (decision_step taken decided).trans same⟩

/-- A run that has been decided was so, and in this way, when it turned to its teardown. -/
theorem Through.turned (through : Through plan.logged broker past r)
    (decided : r.stage.isDecided = true) :
    ∃ turn, Through plan.logged broker (upToTeardown past) turn ∧
      turn.stage.isDecided = true ∧ r.decision = turn.decision := by
  have whole : upToTeardown past ++ past.dropWhile (fun x => !x.before.stage.isDecided) = past :=
    List.takeWhile_append_dropWhile
  have first := List.head?_dropWhile_not
    (fun x : Moment (Logged σ) => !x.before.stage.isDecided) past
  generalize past.dropWhile (fun x => !x.before.stage.isDecided) = later at whole first
  cases later with
  | nil =>
      rw [List.append_nil] at whole
      rw [whole]
      exact ⟨r, through, decided, rfl⟩
  | cons x rest =>
      have turned : x.before.stage.isDecided = true := by simpa using first
      have before := through
      rw [← whole] at before
      refine ⟨x.before, before.before, turned, through.decision_eq x ?_ turned⟩
      rw [← whole]
      exact List.mem_append_right _ List.mem_cons_self

theorem undecided_upToTeardown (past : List (Moment (Logged σ))) :
    ∀ x ∈ upToTeardown past, x.before.stage.isDecided = false := by
  intro x member
  simpa using List.mem_takeWhile_imp member

/-- Runs that take the same steps up to the teardown are decided in the same way. -/
theorem Through.decision_eq_of_same (same : plan.SameUpToTeardown other)
    (through : Through plan.logged broker past r) (decided : r.stage.isDecided = true)
    (through' : Through other.logged broker past' r') (decided' : r'.stage.isDecided = true)
    (steps : (upToTeardown past').map Moment.step = (upToTeardown past).map Moment.step) :
    r'.decision = r.decision := by
  obtain ⟨turn, before, -, settled⟩ := through.turned decided
  obtain ⟨turn', before', -, settled'⟩ := through'.turned decided'
  have counterpart := before.of_same same.logged (undecided_upToTeardown _)
  obtain ⟨-, rfl⟩ := counterpart.unique before' steps
  rw [settled, settled']

/-- To every run that has been decided there is one of the other plan that takes the same steps up
to the teardown, and comes to a report. -/
theorem Through.exists_counterpart (same : plan.SameUpToTeardown other)
    (fits : CountsFit other.logged broker) (through : Through plan.logged broker past r)
    (decided : r.stage.isDecided = true) :
    ∃ past' r' report', Through other.logged broker past' r' ∧ r'.stage = .done report' ∧
      upToTeardown past' = upToTeardown past := by
  obtain ⟨turn, before, turned, -⟩ := through.turned decided
  have undecided := undecided_upToTeardown past
  have counterpart := before.of_same same.logged undecided
  obtain ⟨later, r', report', ended, stage⟩ := counterpart.completes fits
  refine ⟨_, r', report', ended, stage, ?_⟩
  -- the first step after the turn is taken in a state that is decided, so nothing is added
  unfold upToTeardown at undecided ⊢
  rw [List.takeWhile_append_of_pos (by simpa using undecided)]
  cases later with
  | nil => exact List.append_nil _
  | cons x rest =>
      obtain ⟨-, rfl⟩ := counterpart.unique ended.before rfl
      rw [List.takeWhile_cons_of_neg (by simpa using turned), List.append_nil]

end Logged

end Run

end DeliveryBench
