import DeliveryBench.Proofs.Run.Teardown

/-!
# The phases of a run, and its outcome

A run goes through its phases in one order (`RunPhase.order`) and turns to the teardown from one of
four of them. `RunPhase.Yields` says with which outcomes it may do so from each; no outcome belongs
to two phases, so that the phases of a report and its outcome determine each other
(`phases_and_outcome_agree`).

The invariant is `Charted`: as long as a run is undecided its phases are those up to the one that
its stage belongs to, and there is no start failure beyond the first phase. The failures to start are
the refusals that the workers met, in order (`Through.startFailures_eq`).
-/

namespace DeliveryBench

variable {σ : Type}

/-- The phases before the teardown, in the order in which a run goes through them. -/
def RunPhase.order : List RunPhase :=
  [.idle, .workersStarting, .workersRunning, .publishing, .waiting, .verifying]

/-- The phases up to one of them. -/
def RunPhase.upTo (phase : RunPhase) : List RunPhase :=
  order.take (order.idxOf phase + 1)

/-- The outcomes with which a run may turn to the teardown from a phase. -/
inductive RunPhase.Yields : RunPhase → Except Failure Unit → Prop
  | start (worker : String) (source : BrokerError) :
    Yields .workersStarting (.error (.start worker source))
  | publish (id : MessageId) (source : BrokerError) :
    Yields .publishing (.error (.publish id source))
  | waitTimeout (pending : Nat) (timeout : Duration) :
    Yields .waiting (.error (.waitTimeout pending timeout))
  | ok : Yields .verifying (.ok ())
  | violated (violations : List Violation) : Yields .verifying (.error (.violated violations))
  | handler (worker : String) (id : MessageId) (reason : String) :
    Yields .verifying (.error (.handler worker id reason))

/-- The phase that a stage belongs to, unless the run is decided or has broken down. -/
def Stage.phase? : Stage → Option RunPhase
  | .starting _ => some .workersStarting
  | .settling => some .workersRunning
  | .publishing .. => some .publishing
  | .waiting _ | .overdue => some .waiting
  | .verifying | .judging => some .verifying
  | _ => none

theorem Standard.yields_verify {standard : Standard} {s : Snapshot} {f : Failure}
    (bad : standard.verify s = .error f) : RunPhase.verifying.Yields (.error f) := by
  unfold Standard.verify Violation.verdict at bad
  split at bad
  · cases bad
  · cases bad
    exact .violated _

theorem Standard.yields_checkHandlers (failOnHandlerError : Bool) (failures : List HandlerFailure) :
    RunPhase.verifying.Yields (checkHandlers failOnHandlerError failures) := by
  unfold checkHandlers
  split
  · exact .handler _ _ _
  · exact .ok

/-- The failures to start of some workers, given what each of them got. -/
def refusals (started : List (WorkerSpec × Except BrokerError Ticket)) : List Failure :=
  started.filterMap fun (spec, join) =>
    match join with
    | .ok _ => none
    | .error source => some (.start spec.name source)

/-- The first failure is that of the first worker that got nothing. -/
theorem refusals_eq_cons {started : List (WorkerSpec × Except BrokerError Ticket)} {f : Failure}
    {others : List Failure} (failed : refusals started = f :: others) :
    ∃ before spec source after, started = before ++ (spec, .error source) :: after ∧
      (∀ x ∈ before, ∃ ticket, x.2 = .ok ticket) ∧ f = .start spec.name source := by
  obtain ⟨before, ⟨spec, join⟩, after, rfl, fine, first, -⟩ := List.filterMap_eq_cons_iff.1 failed
  cases join with
  | ok ticket => cases first
  | error source =>
      cases first
      refine ⟨before, spec, source, after, rfl, ?_, rfl⟩
      rintro ⟨earlier, join⟩ member
      cases join with
      | ok ticket => exact ⟨ticket, rfl⟩
      | error e => cases fine _ member

theorem refusals_snoc (started : List (WorkerSpec × Except BrokerError Ticket))
    (x : WorkerSpec × Except BrokerError Ticket) :
    refusals (started ++ [x]) = refusals started ++ refusals [x] :=
  List.filterMap_append

/-- What the next worker gets is put beside its orders. -/
private theorem zip_concat {α β : Type} {front rest : List α} {results : List β} (a : α) (b : β)
    (same : front.length = results.length) :
    (front ++ a :: rest).zip (results ++ [b]) = (front ++ a :: rest).zip results ++ [(a, b)] := by
  have before :
      (front ++ a :: rest).zip (results ++ []) = front.zip results ++ (a :: rest).zip [] :=
    List.zip_append same
  rw [List.append_nil, List.zip_nil_right, List.append_nil] at before
  rw [before, List.zip_append same, List.zip_cons_cons, List.zip_nil_right]

namespace Run

variable {plan : Plan σ} {broker : σ} {past : List (Moment σ)} {r r' : Run σ} {s : Step}

/-! ## The failures to start -/

theorem startWorker_startFailures (plan : Plan σ) (r : Run σ) (spec : WorkerSpec)
    (rest : List WorkerSpec) :
    (r.startWorker plan spec rest).startFailures = r.startFailures ++
      refusals [(spec, (plan.client.subscribe plan.scenario.target r.world.broker).1)] := by
  generalize answer : plan.client.subscribe plan.scenario.target r.world.broker = result
  obtain ⟨join, broker⟩ := result
  cases join with
  | ok ticket =>
      rw [startWorker_of_ok spec rest answer]
      exact (List.append_nil _).symm
  | error e =>
      rw [startWorker_of_error spec rest answer]
      rfl

/-- Only a step that starts a worker adds to the failures to start. -/
theorem Course.startFailures_eq (course : Course plan r s r')
    (nobody : (⟨r, s⟩ : Moment σ).joined? plan = none) : r'.startFailures = r.startFailures := by
  cases course with
  | turned runner turn =>
      subst runner
      cases turn with
      | startedOne stage =>
          unfold Moment.joined? at nobody
          dsimp only at nobody
          rw [stage] at nobody
          cases nobody
      | startFailed | startedAll | settled | published | publishRefused | publishNoted
      | publishFailed | publishedAll | metAll | metSome | timedOut | overflowed | violated
      | verified | judged | stoppedAll | marked | asked | ended | endedLate | aborted | closed
      | reported => rfl
  | ranOut | gaveUp => rfl
  | aside same => exact same.startFailures

theorem exists_of_joined? {x : Moment σ} {join : Except BrokerError Ticket}
    (joined : x.joined? plan = some join) :
    ∃ spec rest, x.step = .runner ∧ x.before.stage = .starting (spec :: rest) ∧
      join = (plan.client.subscribe plan.scenario.target x.before.world.broker).1 := by
  unfold Moment.joined? at joined
  split at joined
  · rename_i spec rest step stage
    cases joined
    exact ⟨spec, rest, step, stage, rfl⟩
  · cases joined

/-- The failures to start are those of the workers that got nothing, in order. -/
theorem Through.startFailures_eq (through : Through plan broker past r) :
    r.startFailures = refusals (plan.scenario.workers.zip (joins plan past)) := by
  induction through with
  | initial =>
      show [] = refusals (plan.scenario.workers.zip [])
      rw [List.zip_nil_right]
      rfl
  | @step past r r' s through taken ih =>
      rw [joins_snoc]
      cases joined : (⟨r, s⟩ : Moment σ).joined? plan with
      | none =>
          rw [(step_course taken).startFailures_eq joined, ih, Option.toList_none, List.append_nil]
      | some join =>
          obtain ⟨spec, rest, runner, stage, rfl⟩ := exists_of_joined? joined
          obtain rfl : s = .runner := runner
          obtain rfl : r.startWorker plan spec rest = r' := by
            have step : r.step plan .runner = some (r.startWorker plan spec rest) := by
              show r.runnerStep plan = _
              unfold runnerStep
              rw [show r.stage = .starting (spec :: rest) from stage]
            exact Option.some.inj (step.symm.trans taken)
          have specs := through.reachable.roster.specs
          rw [show r.stage = .starting (spec :: rest) from stage] at specs
          have started : (r.workers.map Worker.spec).length = (joins plan past).length := by
            rw [List.length_map, through.posts.length]
          rw [startWorker_startFailures, ih, Option.toList_some, ← specs]
          show _ = refusals (List.zip (_ ++ spec :: rest) _)
          rw [zip_concat spec _ started, refusals_snoc]
          rfl

/-! ## The phases -/

/-- What a run that has turned to its teardown has noted. -/
inductive Concluded (r : Run σ) : Prop
  /-- Some worker could not be started. -/
  | unstarted {f : Failure} {others : List Failure} :
    r.transitions = RunPhase.workersStarting.upTo ++ [.tornDown] → r.outcome = .error f →
    RunPhase.workersStarting.Yields (.error f) → r.startFailures = f :: others → Concluded r
  | started {last : RunPhase} : r.transitions = last.upTo ++ [.tornDown] →
    last.Yields r.outcome → last ≠ .workersStarting → r.startFailures = [] → Concluded r

/-- The notes of a run are those of its stage. -/
structure Charted (r : Run σ) : Prop where
  transitions : ∀ phase, r.stage.phase? = some phase → r.transitions = phase.upTo
  started : ∀ phase, r.stage.phase? = some phase → phase ≠ .workersStarting → r.startFailures = []
  refused : ∀ rest f, r.stage = .publishing rest (some f) → RunPhase.publishing.Yields (.error f)
  concluded : r.stage.isDecided = true → Concluded r

theorem charted_initial (plan : Plan σ) (broker : σ) : Charted (initial plan broker) where
  transitions := by
    intro phase here
    cases here
    rfl
  started := by
    intro phase here other
    cases here
    exact absurd rfl other
  refused := nofun
  concluded := nofun

theorem Concluded.of_same (concluded : Concluded r) (transitions : r'.transitions = r.transitions)
    (outcome : r'.outcome = r.outcome) (failures : r'.startFailures = r.startFailures) :
    Concluded r' := by
  cases concluded with
  | unstarted phases failed yields first =>
      exact .unstarted (transitions.trans phases) (outcome.trans failed) yields
        (failures.trans first)
  | started phases yields later none =>
      exact .started (transitions.trans phases) (outcome ▸ yields) later (failures.trans none)

theorem Charted.of_same (charted : Charted r) (stage : r'.stage = r.stage)
    (transitions : r'.transitions = r.transitions) (outcome : r'.outcome = r.outcome)
    (failures : r'.startFailures = r.startFailures) : Charted r' where
  transitions phase here := transitions.trans (charted.transitions phase (stage ▸ here))
  started phase here later := failures.trans (charted.started phase (stage ▸ here) later)
  refused rest f here := charted.refused rest f (stage ▸ here)
  concluded decided := (charted.concluded (stage ▸ decided)).of_same transitions outcome failures

/-- A run that stays in its phase. -/
theorem Charted.stay (charted : Charted r) (phase : RunPhase) (here : r.stage.phase? = some phase)
    (there : r'.stage.phase? = some phase) (transitions : r'.transitions = r.transitions)
    (failures : phase ≠ .workersStarting → r'.startFailures = r.startFailures)
    (refused : ∀ rest f, r'.stage = .publishing rest (some f) →
      RunPhase.publishing.Yields (.error f))
    (undecided : r'.stage.isDecided = false) : Charted r' where
  transitions p here' := by
    obtain rfl : phase = p := Option.some.inj (there.symm.trans here')
    exact transitions.trans (charted.transitions phase here)
  started p here' later := by
    obtain rfl : phase = p := Option.some.inj (there.symm.trans here')
    exact (failures later).trans (charted.started phase here later)
  refused := refused
  concluded decided := by
    rw [undecided] at decided
    cases decided

/-- A run that goes on to the next phase. -/
theorem Charted.enter (charted : Charted r) {phase next : RunPhase} {stage : Stage}
    (here : r.stage.phase? = some phase) (follows : next.upTo = phase.upTo ++ [next])
    (started : r.startFailures = []) (there : stage.phase? = some next)
    (refused : ∀ rest f, stage ≠ .publishing rest (some f)) (undecided : stage.isDecided = false) :
    Charted (r.enter next stage) where
  transitions p here' := by
    obtain rfl : next = p := Option.some.inj (there.symm.trans here')
    show r.transitions ++ [next] = _
    rw [charted.transitions phase here, follows]
  started _ _ _ := started
  refused rest f stage' := absurd stage' (refused rest f)
  concluded := by
    intro decided
    cases undecided.symm.trans decided

theorem charted_of_concluded (decided : r.stage.isDecided = true) (concluded : Concluded r) :
    Charted r where
  transitions := by
    intro phase here
    cases stage : r.stage <;> rw [stage] at here decided <;> cases here <;> cases decided
  started := by
    intro phase here
    cases stage : r.stage <;> rw [stage] at here decided <;> cases here <;> cases decided
  refused := by
    intro rest f stage
    rw [stage] at decided
    cases decided
  concluded := fun _ => concluded

/-- A run that turns to the teardown after its first phase. -/
theorem Charted.tearDown (charted : Charted r) (phase : RunPhase) {outcome : Except Failure Unit}
    (here : r.stage.phase? = some phase) (later : phase ≠ .workersStarting)
    (yields : phase.Yields outcome) : Charted (r.tearDown outcome) :=
  charted_of_concluded rfl <| .started
    (congrArg (· ++ [RunPhase.tornDown]) (charted.transitions phase here)) yields later
    (charted.started phase here later)

theorem Charted.turn (charted : Charted r) (turn : Turn plan r r')
    (refusal : ∀ f ∈ r.startFailures, RunPhase.workersStarting.Yields (.error f)) :
    Charted r' := by
  cases turn with
  | @startedOne spec rest stage =>
      refine charted.stay .workersStarting (by rw [stage]; rfl) rfl rfl ?_ nofun rfl
      exact fun later => absurd rfl later
  | startFailed stage failures =>
      have yields := refusal _ (by rw [failures]; exact List.mem_cons_self)
      refine charted_of_concluded rfl (.unstarted ?_ rfl yields failures)
      exact congrArg (· ++ [RunPhase.tornDown]) (charted.transitions _ (by rw [stage]; rfl))
  | startedAll stage failures =>
      exact charted.enter (by rw [stage]; rfl) rfl failures rfl nofun rfl
  | settled stage =>
      have here : r.stage.phase? = some .workersRunning := by rw [stage]; rfl
      have next := charted.enter here rfl (charted.started _ here nofun)
        (show (Stage.publishing plan.scenario.messages none).phase? = some .publishing from rfl)
        nofun rfl
      exact next.of_same rfl rfl rfl rfl
  | @published m rest failed _ stage =>
      refine charted.stay .publishing (by rw [stage]; rfl) rfl rfl (fun _ => rfl) ?_ rfl
      intro rest' f here
      cases here
      exact charted.refused _ f stage
  | @publishRefused m _ _ broker e stage =>
      have here : r.stage.phase? = some .publishing := by rw [stage]; rfl
      exact (charted.tearDown .publishing here nofun (.publish m.id e)).of_same rfl rfl rfl rfl
  | @publishNoted m rest failed _ e stage =>
      refine charted.stay .publishing (by rw [stage]; rfl) rfl rfl (fun _ => rfl) ?_ rfl
      intro rest' f here
      cases failed with
      | none =>
          cases here
          exact .publish m.id e
      | some first =>
          cases here
          exact charted.refused _ first stage
  | publishFailed stage =>
      exact charted.tearDown .publishing (by rw [stage]; rfl) nofun (charted.refused _ _ stage)
  | publishedAll stage =>
      have here : r.stage.phase? = some .publishing := by rw [stage]; rfl
      exact charted.enter here rfl (charted.started _ here nofun) rfl nofun rfl
  | metAll stage =>
      have here : r.stage.phase? = some .waiting := by rw [stage]; rfl
      exact charted.enter here rfl (charted.started _ here nofun) rfl nofun rfl
  | metSome stage =>
      exact charted.stay .waiting (by rw [stage]; rfl) rfl rfl (fun _ => rfl) nofun rfl
  | timedOut stage =>
      exact charted.tearDown .waiting (by rw [stage]; rfl) nofun (.waitTimeout _ _)
  | overflowed => exact ⟨nofun, nofun, nofun, nofun⟩
  | violated stage bad =>
      exact charted.tearDown .verifying (by rw [stage]; rfl) nofun (Standard.yields_verify bad)
  | verified stage =>
      exact charted.stay .verifying (by rw [stage]; rfl) rfl rfl (fun _ => rfl) nofun rfl
  | judged stage =>
      exact charted.tearDown .verifying (by rw [stage]; rfl) nofun
        (Standard.yields_checkHandlers _ _)
  | stoppedAll stage | marked stage | asked stage | ended stage | endedLate stage | aborted stage
  | closed stage | reported stage =>
      exact charted_of_concluded rfl ((charted.concluded (by rw [stage]; rfl)).of_same rfl rfl rfl)

theorem yields_of_mem_refusals {started : List (WorkerSpec × Except BrokerError Ticket)}
    {f : Failure} (member : f ∈ refusals started) : RunPhase.workersStarting.Yields (.error f) := by
  obtain ⟨⟨spec, join⟩, -, failed⟩ := List.mem_filterMap.1 member
  cases join with
  | ok ticket => cases failed
  | error source =>
      cases failed
      exact .start spec.name source

theorem Through.charted (through : Through plan broker past r) : Charted r := by
  induction through with
  | initial => exact charted_initial plan broker
  | step s through taken ih =>
      cases step_course taken with
      | turned _ turn =>
          refine ih.turn turn ?_
          intro f member
          rw [through.startFailures_eq] at member
          exact yields_of_mem_refusals member
      | ranOut _ stage =>
          exact ih.stay .waiting (by rw [stage]; rfl) rfl rfl (fun _ => rfl) nofun rfl
      | gaveUp _ stage =>
          exact charted_of_concluded rfl ((ih.concluded (by rw [stage]; rfl)).of_same rfl rfl rfl)
      | aside same => exact ih.of_same same.stage same.transitions same.outcome same.startFailures

/-! ## Nothing is published unless all workers have been started -/

/-- A run that has left its first phase does not come back to it. -/
theorem Course.starting (course : Course plan r s r')
    (there : r'.stage.phase? = some .workersStarting) :
    r.stage.phase? = some .workersStarting := by
  cases course with
  | turned _ turn =>
      cases turn with
      | startedOne stage =>
          rw [stage]
          rfl
      | _ => cases there
  | ranOut | gaveUp => cases there
  | aside same => rwa [← same.stage]

/-- As long as workers are being started, and wherever one has been refused, nothing has been
published. -/
theorem Through.published_eq_nil {plan : Plan σ} {broker : σ} {past : List (Moment (Logged σ))}
    {r : Run (Logged σ)} (through : Through plan.logged ⟨broker, []⟩ past r)
    (early : r.stage.phase? = some .workersStarting ∨ r.startFailures ≠ []) :
    r.published = [] := by
  induction through with
  | initial => rfl
  | @step past r r' s through taken ih =>
      have course := step_course taken
      by_cases starting : r.stage.phase? = some .workersStarting
      · rw [published_step taken
          (by intro m rest failed stage; rw [stage] at starting; cases starting)]
        exact ih (.inl starting)
      · have nobody : (⟨r, s⟩ : Moment (Logged σ)).joined? plan.logged = none := by
          apply joined?_eq_none
          intro spec rest stage
          exact starting (by rw [stage]; rfl)
        have failures := course.startFailures_eq nobody
        have refused : r.startFailures ≠ [] := by
          rcases early with back | refused
          · exact absurd (course.starting back) starting
          · rwa [failures] at refused
        have idle : ∀ m rest failed, r.stage ≠ .publishing (m :: rest) failed := by
          intro m rest failed stage
          exact refused (through.charted.started .publishing (by rw [stage]; rfl) nofun)
        rw [published_step taken idle]
        exact ih (.inr refused)

/-! ## Phases and outcome -/

/-- **The phases of a report and its outcome determine each other.** The phases come in order, up to
one, `last`, from which the run has turned to its teardown, and that is

* the first, if and only if some worker could not be started, and if and only if the outcome is a
  failure to start; it is then the failure of the first worker that was refused, and nothing has
  been published;
* the phase of publishing, if and only if a message could not be published;
* the phase of waiting, if and only if the time for it ran out;
* the phase of verifying, if and only if the run has succeeded, or an expectation was not met, or a
  handler failed.

There is no other. -/
theorem phases_and_outcome_agree {plan : Plan σ} {broker : σ} {past : List (Moment (Logged σ))}
    {r : Run (Logged σ)} {report : Report} (ended : Ended plan broker past r report) :
    ∃ last : RunPhase,
      report.transitions = last.upTo ++ [.tornDown] ∧
      last.upTo <+: RunPhase.order ∧ last.upTo.getLast? = some last ∧
      last ∈ [.workersStarting, .publishing, .waiting, .verifying] ∧
      (last = .workersStarting ↔ report.startFailures ≠ []) ∧
      (last = .workersStarting ↔ ∃ worker source, report.outcome = .error (.start worker source)) ∧
      (last = .workersStarting → r.published = [] ∧ ∃ before spec source after,
        plan.scenario.workers.zip (joins plan.logged past) =
          before ++ (spec, .error source) :: after ∧
        (∀ x ∈ before, ∃ ticket, x.2 = .ok ticket) ∧
        report.startFailures.head? = some (.start spec.name source) ∧
        report.outcome = .error (.start spec.name source)) ∧
      (last = .publishing ↔ ∃ id source, report.outcome = .error (.publish id source)) ∧
      (last = .waiting ↔
        ∃ pending timeout, report.outcome = .error (.waitTimeout pending timeout)) ∧
      (last = .verifying ↔ report.outcome = .ok () ∨
        (∃ violations, report.outcome = .error (.violated violations)) ∨
        ∃ worker id reason, report.outcome = .error (.handler worker id reason)) := by
  obtain ⟨through, stage⟩ := ended
  have filed := through.reachable.filed stage
  rw [filed.transitions, filed.outcome, filed.startFailures]
  cases through.charted.concluded (by rw [stage]; rfl) with
  | @unstarted f others phases failed yields failures =>
      have refused : r.startFailures ≠ [] := by
        rw [failures]
        exact List.cons_ne_nil f others
      have first := failures
      rw [through.startFailures_eq] at first
      obtain ⟨before, spec, source, after, workers, fine, rfl⟩ := refusals_eq_cons first
      have unpublished := through.published_eq_nil (.inr refused)
      refine ⟨.workersStarting, phases, List.take_prefix _ _, rfl, List.mem_cons_self, ?_⟩
      rw [failed, failures]
      exact ⟨⟨fun _ => List.cons_ne_nil _ _, fun _ => rfl⟩, ⟨fun _ => ⟨_, _, rfl⟩, fun _ => rfl⟩,
        fun _ => ⟨unpublished, before, spec, source, after, workers, fine, rfl, rfl⟩,
        by simp, by simp, by simp⟩
  | @started last phases yields later failures =>
      refine ⟨last, phases, List.take_prefix _ _, ?_⟩
      rw [failures]
      generalize r.outcome = outcome at yields
      cases yields with
      | start => exact absurd rfl later
      | publish | waitTimeout | ok | violated | handler => exact ⟨rfl, by simp, by simp, by simp⟩

/-! ## A run in which a worker is refused -/

/-- Two workers. -/
def pairDraft : Draft where
  name := "pair"
  topic := some "orders"
  subscription := some "audit"
  workers := [{ name := "a" }, { name := "b" }]
  messages := [⟨.ofNat 0, "note", none⟩]

def pairPlan : Plan Broker :=
  Broker.plan (pairDraft.assemble ⟨⟨"orders", "audit"⟩, .shared⟩) {}

/-- A way through it if the second worker is refused. -/
def pairSteps : List Step :=
  List.replicate 4 .runner ++ [.worker 0] ++ List.replicate 5 .runner

/-- What the second worker is told. -/
def pairRefusal : BrokerError :=
  .subscribeFailed ⟨"orders", "audit"⟩ "injected failure on attempt 2"

/-- The second worker is refused: the run ends in its first phase, and nothing is published. -/
theorem phases_of_a_refused_worker :
    ∃ past r report, Ended pairPlan (.after {} [.failAttempt 2]) past r report ∧
      report.startFailures = [.start "b" pairRefusal] ∧
      report.transitions = [.idle, .workersStarting, .tornDown] ∧
      report.outcome = .error (.start "b" pairRefusal) ∧ r.published = [] := by
  have come : (((initial pairPlan.logged ⟨.after {} [.failAttempt 2], []⟩).steps pairPlan.logged
      pairSteps).bind report?).any (fun report =>
        report.startFailures = [.start "b" pairRefusal]) = true := by
    decide +kernel
  obtain ⟨r, report, run, stage, holds⟩ := exists_of_report? come
  obtain ⟨past, through⟩ := Through.initial.steps run
  have ended : Ended pairPlan (.after {} [.failAttempt 2]) past r report := ⟨through, stage⟩
  have refused := of_decide_eq_true holds
  obtain ⟨last, phases, -, -, -, first, -, unstarted, -⟩ := phases_and_outcome_agree ended
  obtain rfl := first.2 (by rw [refused]; exact List.cons_ne_nil _ _)
  obtain ⟨unpublished, before, spec, source, after, -, -, head, outcome⟩ := unstarted rfl
  rw [refused] at head
  exact ⟨past, r, report, ended, refused, phases,
    outcome.trans (congrArg _ (Option.some.inj head).symm), unpublished⟩

end Run

end DeliveryBench
