import DeliveryBench.Run

/-!
# What a step can do

`Loop.Move` lists what one step makes of a delivery loop and of the world, `Run.Turn` what the
runner does in each stage, `Run.Course` what any step makes of the runner's own notes, and
`Run.Change` what it makes of the workers, the journal and the signals. Invariants are proved by
cases on these and never open the functions that take the steps (`Loop.step_move`,
`Run.runnerStep_turn`, `Run.step_course`, `Run.step_change`).

Caveat: of the stage `Run.Change` only says which workers are still to be started. What else a step
makes of it is a matter of `Run.Course`.
-/

namespace DeliveryBench

variable {σ : Type}

/-! ## One loop -/

inductive Loop.Move (client : Client σ) (l : Loop) (w : World σ) : Loop → World σ → Prop
  /-- It has been asked to stop. -/
  | stopped : l.phase = .idle → l.stopRequested = true →
    Move client l w { l with phase := .ended .finished } w
  | took {m : Message} {broker : σ} : l.phase = .idle → l.stopRequested = false →
    client.receive l.ticket w.broker = (.message m, broker) →
    Move client l w (l.take m) (w.withBroker broker)
  /-- Its subscription has ended. -/
  | deserted {broker : σ} : l.phase = .idle → l.stopRequested = false →
    client.receive l.ticket w.broker = (.ended, broker) →
    Move client l w { l with phase := .ended .finished } (w.withBroker broker)
  | broke {text : String} {broker : σ} : l.phase = .idle → l.stopRequested = false →
    client.receive l.ticket w.broker = (.crashed text, broker) →
    Move client l w { l with phase := .ended (.crashed (some text)) } (w.withBroker broker)
  | observed {m : Message} {reaction : Reaction} : l.phase = .handling m reaction →
    w.isOpen reaction.gate = true →
    Move client l w { l with phase := .observed m w.journal.next reaction.verdict }
      { w with journal := (w.journal.record l.spec.name m).2 }
  /-- No text can be made of its error. -/
  | collapsed {m : Message} {sequence : Nat} {text : Option String} :
    l.phase = .observed m sequence (.unprintable text) →
    Move client l w { l with phase := .ended (.crashed text) } w
  | passed {m : Message} {sequence : Nat} : l.phase = .observed m sequence .ok →
    Move client l w { l with phase := .recorded m } w
  | failed {m : Message} {sequence : Nat} {verdict : Verdict} {reason : String} :
    l.phase = .observed m sequence verdict → verdict.failure? = some reason →
    Move client l w { l with phase := .recorded m }
      { w with journal := w.journal.recordFailure l.spec.name m sequence reason }
  | counted {m : Message} : l.phase = .recorded m →
    Move client l w { l with phase := .idle } (w.countDown l.spec.signal)

/-- A verdict of which a text can be made, and under which nothing is recorded, is a good one. -/
theorem Verdict.eq_ok_of_failure? {verdict : Verdict} (fine : verdict.failure? = none)
    (printable : ∀ text, verdict ≠ .unprintable text) : verdict = .ok := by
  cases verdict with
  | ok => rfl
  | error reason => cases fine
  | unprintable text => exact absurd rfl (printable text)
  | panic text => cases text <;> cases fine

theorem Loop.step_move {client : Client σ} {l l' : Loop} {w w' : World σ}
    (taken : l.step client w = some (l', w')) : Move client l w l' w' := by
  unfold Loop.step at taken
  split at taken
  · rename_i phase
    unfold Loop.poll at taken
    split at taken
    · rename_i stop
      cases taken
      exact .stopped phase stop
    · rename_i goOn
      rw [Bool.not_eq_true] at goOn
      split at taken
      · rename_i answer
        cases taken
        exact .took phase goOn answer
      · cases taken
      · rename_i answer
        cases taken
        exact .deserted phase goOn answer
      · rename_i answer
        cases taken
        exact .broke phase goOn answer
  · rename_i phase
    unfold Loop.observe at taken
    split at taken
    · rename_i isOpen
      cases taken
      exact .observed phase isOpen
    · cases taken
  · rename_i phase
    unfold Loop.recordFailure at taken
    split at taken
    · cases taken
      exact .collapsed phase
    · rename_i verdict printable
      split at taken
      · rename_i fine
        cases taken
        rw [Verdict.eq_ok_of_failure? fine printable] at phase
        exact .passed phase
      · rename_i bad
        cases taken
        exact .failed phase bad
  · rename_i phase
    cases taken
    exact .counted phase
  · cases taken

/-- No step changes what a loop has been told, or where it polls. -/
theorem Loop.Move.same {client : Client σ} {l l' : Loop} {w w' : World σ}
    (move : Loop.Move client l w l' w') :
    l'.spec = l.spec ∧ l'.ticket = l.ticket ∧ l'.stopRequested = l.stopRequested := by
  cases move <;> exact ⟨rfl, rfl, rfl⟩

/-- A loop that has ended moves no more. -/
theorem Loop.Move.unended {client : Client σ} {l l' : Loop} {w w' : World σ}
    (move : Loop.Move client l w l' w') (ending : Ending) : l.phase ≠ .ended ending := by
  intro ended
  cases move with
  | stopped phase | took phase | deserted phase | broke phase | observed phase | collapsed phase
  | passed phase | failed phase | counted phase =>
      rw [ended] at phase
      cases phase

/-! ## The runner -/

namespace Run

/-- A worker whose subscribe has succeeded. -/
def attached (spec : WorkerSpec) (stopTimeout : Duration) (ticket : Ticket) : Worker where
  spec := spec
  stopTimeout := stopTimeout
  state := .running
  hasLoop := false
  loop := some { spec, ticket }
  ticket := some ticket

/-- A worker whose subscribe has failed. -/
def turnedAway (spec : WorkerSpec) (stopTimeout : Duration) : Worker where
  spec := spec
  stopTimeout := stopTimeout
  state := .failed
  hasLoop := false

theorem startWorker_of_ok {plan : Plan σ} {r : Run σ} (spec : WorkerSpec)
    (rest : List WorkerSpec) {ticket : Ticket} {broker : σ}
    (ok : plan.client.subscribe plan.scenario.target r.world.broker = (.ok ticket, broker)) :
    r.startWorker plan spec rest =
      { r with
        world := r.world.withBroker broker
        workers := r.workers ++ [attached spec plan.settings.stopTimeout ticket]
        stage := .starting rest } := by
  have started : Worker.start plan.client plan.scenario.target
      { spec, stopTimeout := plan.settings.stopTimeout } r.world.broker =
        (.ok (), attached spec plan.settings.stopTimeout ticket, broker) := by
    unfold Worker.start
    rw [if_neg (by simp), if_neg (by simp), ok]
    rfl
  unfold startWorker
  rw [started]

theorem startWorker_of_error {plan : Plan σ} {r : Run σ} (spec : WorkerSpec)
    (rest : List WorkerSpec) {e : BrokerError} {broker : σ}
    (error : plan.client.subscribe plan.scenario.target r.world.broker = (.error e, broker)) :
    r.startWorker plan spec rest =
      { r with
        world := r.world.withBroker broker
        workers := r.workers ++ [turnedAway spec plan.settings.stopTimeout]
        startFailures := r.startFailures ++ [.start spec.name e]
        stage := .starting rest } := by
  have refused : Worker.start plan.client plan.scenario.target
      { spec, stopTimeout := plan.settings.stopTimeout } r.world.broker =
        (.error (.start spec.name e), turnedAway spec plan.settings.stopTimeout, broker) := by
    unfold Worker.start
    rw [if_neg (by simp), if_neg (by simp), error]
    rfl
  unfold startWorker
  rw [refused]

/-- What the runner does next, stage by stage. -/
inductive Turn (plan : Plan σ) (r : Run σ) : Run σ → Prop
  | startedOne {spec : WorkerSpec} {rest : List WorkerSpec} : r.stage = .starting (spec :: rest) →
    Turn plan r (r.startWorker plan spec rest)
  | startFailed {f : Failure} {others : List Failure} : r.stage = .starting [] →
    r.startFailures = f :: others → Turn plan r (r.tearDown (.error f))
  | startedAll : r.stage = .starting [] → r.startFailures = [] →
    Turn plan r (r.enter .workersRunning .settling)
  | settled : r.stage = .settling → Turn plan r (r.settle plan)
  | published {m : Message} {rest : List Message} {failed : Option Failure} {broker : σ} :
    r.stage = .publishing (m :: rest) failed →
    plan.producer.publish plan.scenario.target.topic m r.world.broker = (.ok (), broker) →
    Turn plan r { r with world := r.world.withBroker broker, stage := .publishing rest failed }
  /-- In sequence, a message that cannot be published ends the run. -/
  | publishRefused {m : Message} {rest : List Message} {failed : Option Failure} {broker : σ}
    {e : BrokerError} : r.stage = .publishing (m :: rest) failed →
    plan.settings.publishMode = .sequential →
    plan.producer.publish plan.scenario.target.topic m r.world.broker = (.error e, broker) →
    Turn plan r ({ r with world := r.world.withBroker broker }.tearDown (.error (.publish m.id e)))
  /-- All at once, the others are still published. -/
  | publishNoted {m : Message} {rest : List Message} {failed : Option Failure} {broker : σ}
    {e : BrokerError} : r.stage = .publishing (m :: rest) failed →
    plan.settings.publishMode = .concurrent →
    plan.producer.publish plan.scenario.target.topic m r.world.broker = (.error e, broker) →
    Turn plan r { r with
      world := r.world.withBroker broker
      stage := .publishing rest (some (failed.getD (.publish m.id e))) }
  | publishFailed {f : Failure} : r.stage = .publishing [] (some f) →
    Turn plan r (r.tearDown (.error f))
  | publishedAll : r.stage = .publishing [] none →
    Turn plan r (r.enter .waiting (.waiting (Scenario.distinctSignals plan.scenario.workers)))
  | metAll {unmet : List SignalId} : r.stage = .waiting unmet →
    r.leftOpen plan.lookLimit unmet = [] → Turn plan r (r.enter .verifying .verifying)
  | metSome {unmet : List SignalId} : r.stage = .waiting unmet →
    (r.leftOpen plan.lookLimit unmet).length < unmet.length →
    Turn plan r { r with stage := .waiting (r.leftOpen plan.lookLimit unmet) }
  | timedOut {pending : Nat} : r.stage = .overdue →
    pending = Word.total ((Scenario.distinctSignals plan.scenario.workers).map r.world.count) →
    pending < Word.limit →
    Turn plan r (r.tearDown (.error (.waitTimeout pending plan.settings.waitTimeout)))
  | overflowed : r.stage = .overdue →
    ¬ Word.total ((Scenario.distinctSignals plan.scenario.workers).map r.world.count) <
      Word.limit →
    Turn plan r { r with stage := .crashed "attempt to add with overflow" }
  | violated {f : Failure} : r.stage = .verifying →
    plan.scenario.standard.verify r.world.journal.snapshot = .error f →
    Turn plan r (r.tearDown (.error f))
  | verified : r.stage = .verifying →
    plan.scenario.standard.verify r.world.journal.snapshot = .ok () →
    Turn plan r { r with stage := .judging }
  | judged : r.stage = .judging → Turn plan r (r.judge plan)
  | stoppedAll {index : Nat} : r.stage = .stopping index → r.workers[index]? = none →
    Turn plan r { r with stage := .closing }
  | marked {index : Nat} {w w' : Worker} : r.stage = .stopping index →
    r.workers[index]? = some w → w.beginStop = (false, w') →
    Turn plan r { r.setWorker index w' with stage := .stopping (index + 1) }
  | asked {index : Nat} {w w' : Worker} : r.stage = .stopping index →
    r.workers[index]? = some w → w.beginStop = (true, w') →
    Turn plan r { r.setWorker index w' with stage := .awaiting index }
  | ended {index : Nat} {w : Worker} {ending : Ending} : r.stage = .awaiting index →
    r.workers[index]? = some w → w.ending? = some ending →
    Turn plan r (r.finishStop plan index w (.ended ending))
  /-- It ends by itself before it can be aborted. -/
  | endedLate {index : Nat} {w : Worker} {ending : Ending} : r.stage = .abandoning index →
    r.workers[index]? = some w → w.ending? = some ending →
    Turn plan r (r.finishStop plan index w .timedOut)
  | aborted {index : Nat} {w w' : Worker} : r.stage = .abandoning index →
    r.workers[index]? = some w → w.ending? = none → w.abort? = some w' →
    Turn plan r (r.finishStop plan index w' .timedOut)
  | closed : r.stage = .closing → Turn plan r (r.close plan)
  | reported : r.stage = .reporting → Turn plan r { r with stage := .done (r.report plan) }

variable {plan : Plan σ} {r r' : Run σ}

theorem turn_afterStart (stage : r.stage = .starting []) : Turn plan r r.afterStart := by
  unfold afterStart
  split
  · rename_i failures
    exact .startFailed stage failures
  · rename_i fine
    exact .startedAll stage fine

theorem turn_publishOne {m : Message} {rest : List Message} {failed : Option Failure}
    (stage : r.stage = .publishing (m :: rest) failed) :
    Turn plan r (r.publishOne plan m rest failed) := by
  unfold publishOne
  generalize result : plan.producer.publish plan.scenario.target.topic m r.world.broker = outcome
  obtain ⟨answer, broker⟩ := outcome
  cases answer with
  | ok done => exact .published stage result
  | error e =>
      cases mode : plan.settings.publishMode with
      | sequential => exact .publishRefused stage mode result
      | concurrent => exact .publishNoted stage mode result

theorem turn_afterPublish {failed : Option Failure} (stage : r.stage = .publishing [] failed) :
    Turn plan r (r.afterPublish plan failed) := by
  cases failed with
  | none => exact .publishedAll stage
  | some f => exact .publishFailed stage

theorem turn_wait {unmet : List SignalId} (stage : r.stage = .waiting unmet)
    (taken : r.wait plan unmet = some r') : Turn plan r r' := by
  unfold wait at taken
  dsimp only at taken
  split at taken
  · rename_i empty
    cases taken
    exact .metAll stage (List.isEmpty_iff.1 empty)
  · split at taken
    · rename_i fewer
      cases taken
      exact .metSome stage fewer
    · cases taken

theorem turn_sumPending (stage : r.stage = .overdue) : Turn plan r (r.sumPending plan) := by
  unfold sumPending
  dsimp only
  split
  · rename_i word
    exact .timedOut stage rfl word
  · rename_i tooMany
    exact .overflowed stage tooMany

theorem turn_verify (stage : r.stage = .verifying) : Turn plan r (r.verify plan) := by
  unfold verify
  split
  · rename_i verdict
    exact .violated stage verdict
  · rename_i verdict
    exact .verified stage verdict

theorem turn_stopNext {index : Nat} (stage : r.stage = .stopping index) :
    Turn plan r (r.stopNext index) := by
  unfold stopNext
  split
  · rename_i nobody
    exact .stoppedAll stage nobody
  · rename_i w there
    split
    · rename_i w' result
      exact .marked stage there result
    · rename_i w' result
      exact .asked stage there result

theorem turn_awaitLoop {index : Nat} (stage : r.stage = .awaiting index)
    (taken : r.awaitLoop plan index = some r') : Turn plan r r' := by
  unfold awaitLoop at taken
  split at taken
  · cases taken
  · rename_i w there
    rcases Option.map_eq_some_iff.1 taken with ⟨ending, ended, rfl⟩
    exact .ended stage there ended

theorem turn_abandonLoop {index : Nat} (stage : r.stage = .abandoning index)
    (taken : r.abandonLoop plan index = some r') : Turn plan r r' := by
  unfold abandonLoop at taken
  split at taken
  · cases taken
  · rename_i w there
    split at taken
    · rename_i ending ended
      cases taken
      exact .endedLate stage there ended
    · rename_i goesOn
      rcases Option.map_eq_some_iff.1 taken with ⟨w', aborted, rfl⟩
      exact .aborted stage there goesOn aborted

theorem runnerStep_turn (taken : r.runnerStep plan = some r') : Turn plan r r' := by
  unfold runnerStep at taken
  split at taken
  · rename_i stage
    cases taken
    exact .startedOne stage
  · rename_i stage
    cases taken
    exact turn_afterStart stage
  · rename_i stage
    cases taken
    exact .settled stage
  · rename_i stage
    cases taken
    exact turn_publishOne stage
  · rename_i stage
    cases taken
    exact turn_afterPublish stage
  · rename_i stage
    exact turn_wait stage taken
  · rename_i stage
    cases taken
    exact turn_sumPending stage
  · rename_i stage
    cases taken
    exact turn_verify stage
  · rename_i stage
    cases taken
    exact .judged stage
  · rename_i stage
    cases taken
    exact turn_stopNext stage
  · rename_i stage
    exact turn_awaitLoop stage taken
  · rename_i stage
    exact turn_abandonLoop stage taken
  · rename_i stage
    cases taken
    exact .closed stage
  · rename_i stage
    cases taken
    exact .reported stage
  · cases taken
  · cases taken

/-- A timeout runs out either on the signals or on a loop that winds down. -/
theorem timeoutStep_cases (taken : r.timeoutStep plan = some r') :
    (∃ unmet, r.stage = .waiting unmet ∧ r.leftOpen plan.lookLimit unmet ≠ [] ∧
      r' = { r with stage := .overdue, clock := r.clock + plan.settings.waitTimeout.toNanos }) ∨
    ∃ index w, r.stage = .awaiting index ∧ r.workers[index]? = some w ∧ w.ending? = none ∧
      r' = { r with stage := .abandoning index, clock := r.clock + w.stopTimeout.toNanos } := by
  unfold timeoutStep at taken
  split at taken
  · rename_i unmet stage
    split at taken
    · cases taken
    · rename_i left
      cases taken
      exact .inl ⟨unmet, stage, by simpa using left, rfl⟩
  · rename_i index stage
    split at taken
    · cases taken
    · rename_i w there
      split at taken
      · cases taken
      · rename_i goesOn
        cases taken
        exact .inr ⟨index, w, stage, there, goesOn, rfl⟩
  · cases taken

end Run

/-! ## The whole run -/

/-- The workers that are still to be started. -/
def Stage.unstarted : Stage → List WorkerSpec
  | .starting rest => rest
  | _ => []

namespace Run

variable {plan : Plan σ} {r r' : Run σ}

/-- A worker that is being stopped: its loop goes no further. -/
structure WindsDown (w w' : Worker) : Prop where
  spec : w'.spec = w.spec
  loop : ∀ l', w'.loop = some l' → ∃ l, w.loop = some l ∧ l'.spec = l.spec ∧
    (l'.phase = l.phase ∨ ∃ ending, l'.phase = .ended ending)

theorem windsDown_refl (w : Worker) : WindsDown w w :=
  ⟨rfl, fun l' there => ⟨l', there, rfl, .inl rfl⟩⟩

/-- What a step makes of the workers, the journal and the signals. -/
inductive Change (plan : Plan σ) (r : Run σ) : Step → Run σ → Prop
  | moved {index : Nat} {w : Worker} {l l' : Loop} {world : World σ} :
    r.workers[index]? = some w → w.loop = some l → Loop.Move plan.client l r.world l' world →
    Change plan r (.worker index)
      { r.setWorker index { w with loop := some l' } with world := world }
  | started {spec : WorkerSpec} {rest : List WorkerSpec} : r.stage = .starting (spec :: rest) →
    Change plan r .runner (r.startWorker plan spec rest)
  /-- The teardown takes hold of one worker. -/
  | woundDown {index : Nat} {w w' : Worker} {r' : Run σ} : r.workers[index]? = some w →
    WindsDown w w' → r'.workers = r.workers.set index w' → r'.world.journal = r.world.journal →
    r'.world.signals = r.world.signals → r'.stage.unstarted = r.stage.unstarted →
    Change plan r .runner r'
  | elsewhere {s : Step} {r' : Run σ} : r'.workers = r.workers →
    r'.world.journal = r.world.journal → r'.world.signals = r.world.signals →
    r'.stage.unstarted = r.stage.unstarted → (∀ index, s ≠ .worker index) → Change plan r s r'

theorem windsDown_beginStop (w : Worker) : WindsDown w w.beginStop.2 := by
  unfold Worker.beginStop
  split
  · exact windsDown_refl w
  · exact ⟨rfl, fun l' there => ⟨l', there, rfl, .inl rfl⟩⟩
  · exact ⟨rfl, fun l' there => ⟨l', there, rfl, .inl rfl⟩⟩
  · refine ⟨rfl, ?_⟩
    intro l' there
    rcases Option.map_eq_some_iff.1 there with ⟨l, old, rfl⟩
    exact ⟨l, old, rfl, .inl rfl⟩

theorem windsDown_abort {w w' : Worker} (aborted : w.abort? = some w') : WindsDown w w' := by
  unfold Worker.abort? at aborted
  split at aborted
  · cases aborted
  · rename_i l there
    rcases Option.map_eq_some_iff.1 aborted with ⟨l', ended, rfl⟩
    refine ⟨rfl, ?_⟩
    rintro l'' new
    obtain rfl : l' = l'' := Option.some.inj new
    refine ⟨l, there, ?_⟩
    unfold Loop.abort? at ended
    split at ended
    · cases ended
      exact ⟨rfl, .inr ⟨_, rfl⟩⟩
    · cases ended
      exact ⟨rfl, .inr ⟨_, rfl⟩⟩
    · cases ended

/-- Giving the subscription back leaves the loop alone. -/
theorem giveBack_loop (client : Client σ) (w : Worker) (broker : σ) :
    (w.giveBack client broker).2.1 = { w with ticket := none } := by
  unfold Worker.giveBack
  split
  · rename_i none
    rw [← none]
  · dsimp only
    split <;> rfl

theorem change_finishStop {index : Nat} {w w' : Worker} (there : r.workers[index]? = some w)
    (calm : WindsDown w w') (outcome : StopOutcome) (started : r.stage.unstarted = []) :
    Change plan r .runner (r.finishStop plan index w' outcome) := by
  have calm' : WindsDown w (w'.giveBack plan.client r.world.broker).2.1 := by
    rw [giveBack_loop]
    exact ⟨calm.spec, calm.loop⟩
  exact .woundDown there calm' rfl rfl rfl started.symm

theorem Turn.change (turn : Turn plan r r') : Change plan r .runner r' := by
  cases turn with
  | startedOne stage => exact .started stage
  | startFailed stage | startedAll stage | settled stage | published stage | publishRefused stage
  | publishNoted stage | publishFailed stage | publishedAll stage | metAll stage | metSome stage
  | timedOut stage | overflowed stage | violated stage | verified stage | judged stage
  | stoppedAll stage | closed stage | reported stage =>
      exact .elsewhere rfl rfl rfl (by rw [stage]; rfl) nofun
  | @marked _ w _ stage there result | @asked _ w _ stage there result =>
      have calm := windsDown_beginStop w
      rw [result] at calm
      exact .woundDown there calm rfl rfl rfl (by rw [stage]; rfl)
  | ended stage there | endedLate stage there =>
      exact change_finishStop there (windsDown_refl _) _ (by rw [stage]; rfl)
  | aborted stage there _ aborted =>
      exact change_finishStop there (windsDown_abort aborted) _ (by rw [stage]; rfl)

/-- A step of a worker is a move of its loop. -/
theorem workerStep_move {index : Nat} (taken : r.workerStep plan index = some r') :
    ∃ w l l' world, r.workers[index]? = some w ∧ w.loop = some l ∧
      Loop.Move plan.client l r.world l' world ∧
      r' = { r.setWorker index { w with loop := some l' } with world := world } := by
  unfold workerStep at taken
  split at taken
  · cases taken
  · rename_i w there
    rcases Option.map_eq_some_iff.1 taken with ⟨⟨w', world⟩, stepped, rfl⟩
    unfold Worker.step at stepped
    split at stepped
    · cases stepped
    · rename_i l loop
      rcases Option.map_eq_some_iff.1 stepped with ⟨⟨l', world'⟩, moved, same⟩
      cases same
      exact ⟨w, l, l', world', there, loop, Loop.step_move moved, rfl⟩

/-- A step beside the runner: it stays where it is, and so does all that it has noted. -/
structure Aside (r r' : Run σ) : Prop where
  stage : r'.stage = r.stage
  transitions : r'.transitions = r.transitions
  outcome : r'.outcome = r.outcome
  startFailures : r'.startFailures = r.startFailures
  stopFailures : r'.stopFailures = r.stopFailures
  closeFailure : r'.closeFailure = r.closeFailure

inductive Course (plan : Plan σ) (r : Run σ) (s : Step) : Run σ → Prop
  | turned {r' : Run σ} : s = .runner → Turn plan r r' → Course plan r s r'
  | ranOut {unmet : List SignalId} : s = .timeout → r.stage = .waiting unmet →
    r.leftOpen plan.lookLimit unmet ≠ [] →
    Course plan r s
      { r with stage := .overdue, clock := r.clock + plan.settings.waitTimeout.toNanos }
  | gaveUp {index : Nat} {w : Worker} : s = .timeout → r.stage = .awaiting index →
    r.workers[index]? = some w → w.ending? = none →
    Course plan r s
      { r with stage := .abandoning index, clock := r.clock + w.stopTimeout.toNanos }
  | aside {r' : Run σ} : Aside r r' → Course plan r s r'

theorem step_course {s : Step} (taken : r.step plan s = some r') : Course plan r s r' := by
  cases s with
  | runner => exact .turned rfl (runnerStep_turn taken)
  | worker index =>
      rcases workerStep_move taken with ⟨w, l, l', world, -, -, -, rfl⟩
      exact .aside ⟨rfl, rfl, rfl, rfl, rfl, rfl⟩
  | timeout =>
      rcases timeoutStep_cases taken with
        ⟨unmet, stage, left, rfl⟩ | ⟨index, w, stage, there, goesOn, rfl⟩
      · exact .ranOut rfl stage left
      · exact .gaveUp rfl stage there goesOn
  | gate name =>
      cases taken
      exact .aside ⟨rfl, rfl, rfl, rfl, rfl, rfl⟩
  | broker =>
      cases taken
      exact .aside ⟨rfl, rfl, rfl, rfl, rfl, rfl⟩

/-- Every step of a run is one of the changes. -/
theorem step_change {s : Step} (taken : r.step plan s = some r') : Change plan r s r' := by
  cases s with
  | runner => exact (runnerStep_turn taken).change
  | worker index =>
      rcases workerStep_move taken with ⟨w, l, l', world, there, loop, move, rfl⟩
      exact .moved there loop move
  | timeout =>
      rcases timeoutStep_cases taken with ⟨unmet, stage, -, rfl⟩ | ⟨index, w, stage, -, -, rfl⟩
      · exact .elsewhere rfl rfl rfl (by rw [stage]; rfl) nofun
      · exact .elsewhere rfl rfl rfl (by rw [stage]; rfl) nofun
  | gate name =>
      cases taken
      exact .elsewhere rfl rfl rfl rfl nofun
  | broker =>
      cases taken
      exact .elsewhere rfl rfl rfl rfl nofun

/-- Whatever steps can be taken lead to a state that a run can come to. -/
theorem Reachable.steps {broker : σ} {taken : List Step} (reachable : Reachable plan broker r)
    (run : r.steps plan taken = some r') : Reachable plan broker r' := by
  induction taken generalizing r with
  | nil =>
      cases run
      exact reachable
  | cons s rest ih =>
      rcases Option.bind_eq_some_iff.1 run with ⟨next, first, later⟩
      exact ih (.step s reachable first) later

end Run

end DeliveryBench
