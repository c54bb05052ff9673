import DeliveryBench.Run.Log

/-!
# A log changes nothing

A broker may be seen through a function of its state. If the calls of one broker, seen so, are those
of another (`Plan.Follows`), then so are the runs (`Run.step_seen`). A plan and its log are an
example: without the log, a run of the logged plan is a run of the plan (`Run.step_unlogged`).
-/

namespace DeliveryBench

variable {τ σ : Type} {f : τ → σ}

/-- Seen through a function, the calls of one plan are those of another. -/
structure Plan.Follows (f : τ → σ) (follower : Plan τ) (plan : Plan σ) : Prop where
  scenario : follower.scenario = plan.scenario
  settings : follower.settings = plan.settings
  subscribe : ∀ target s, plan.client.subscribe target (f s) =
    ((follower.client.subscribe target s).1, f (follower.client.subscribe target s).2)
  receive : ∀ ticket s, plan.client.receive ticket (f s) =
    ((follower.client.receive ticket s).1, f (follower.client.receive ticket s).2)
  unsubscribe : ∀ ticket s, plan.client.unsubscribe ticket (f s) =
    ((follower.client.unsubscribe ticket s).1, f (follower.client.unsubscribe ticket s).2)
  release : ∀ ticket s, plan.client.release ticket (f s) = f (follower.client.release ticket s)
  close : ∀ s, plan.client.close (f s) =
    ((follower.client.close s).1, f (follower.client.close s).2)
  advance : ∀ s, plan.client.advance (f s) = f (follower.client.advance s)
  publish : ∀ topic m s, plan.producer.publish topic m (f s) =
    ((follower.producer.publish topic m s).1, f (follower.producer.publish topic m s).2)

/-- A world whose broker is seen through a function. -/
def World.seen (f : τ → σ) (w : World τ) : World σ where
  broker := f w.broker
  journal := w.journal
  signals := w.signals
  openGates := w.openGates

/-- A run whose broker is seen through a function. -/
def Run.seen (f : τ → σ) (r : Run τ) : Run σ where
  world := r.world.seen f
  workers := r.workers
  stage := r.stage
  transitions := r.transitions
  outcome := r.outcome
  startFailures := r.startFailures
  stopFailures := r.stopFailures
  closeFailure := r.closeFailure
  clock := r.clock

variable {follower : Plan τ} {plan : Plan σ}

theorem Loop.poll_seen (follows : follower.Follows f plan) (l : Loop) (w : World τ) :
    l.poll plan.client (w.seen f) =
      (l.poll follower.client w).map fun next => (next.1, next.2.seen f) := by
  unfold Loop.poll
  rw [show (w.seen f).broker = f w.broker from rfl, follows.receive]
  generalize follower.client.receive l.ticket w.broker = answer
  obtain ⟨reception, broker⟩ := answer
  split
  · rfl
  · cases reception <;> rfl

theorem Loop.step_seen (follows : follower.Follows f plan) (l : Loop) (w : World τ) :
    l.step plan.client (w.seen f) =
      (l.step follower.client w).map fun next => (next.1, next.2.seen f) := by
  unfold Loop.step
  split
  · exact Loop.poll_seen follows l w
  · rename_i m reaction _
    unfold Loop.observe
    have same : (w.seen f).isOpen reaction.gate = w.isOpen reaction.gate := rfl
    rw [same]
    split <;> rfl
  · rename_i m sequence verdict _
    cases verdict with
    | panic text => cases text <;> rfl
    | ok | error | unprintable => rfl
  · unfold World.countDown
    cases l.spec.signal <;> rfl
  · rfl

theorem Worker.giveBack_seen (follows : follower.Follows f plan) (w : Worker) (s : τ) :
    w.giveBack plan.client (f s) =
      ((w.giveBack follower.client s).1, (w.giveBack follower.client s).2.1,
        f (w.giveBack follower.client s).2.2) := by
  unfold Worker.giveBack
  cases w.ticket with
  | none => rfl
  | some ticket =>
      dsimp only
      rw [follows.unsubscribe]
      generalize follower.client.unsubscribe ticket s = answer
      obtain ⟨result, broker⟩ := answer
      cases result with
      | ok =>
          dsimp only
          rw [follows.release]
      | error e =>
          dsimp only
          rw [follows.release]

theorem Worker.finishStop_seen (follows : follower.Follows f plan) (outcome : StopOutcome)
    (w : Worker) (s : τ) :
    w.finishStop plan.client outcome (f s) =
      ((w.finishStop follower.client outcome s).1, (w.finishStop follower.client outcome s).2.1,
        f (w.finishStop follower.client outcome s).2.2) := by
  unfold Worker.finishStop
  rw [Worker.giveBack_seen follows]

namespace Run

variable {r : Run τ}

theorem startWorker_seen (follows : follower.Follows f plan) (spec : WorkerSpec)
    (rest : List WorkerSpec) :
    (r.seen f).startWorker plan spec rest = (r.startWorker follower spec rest).seen f := by
  unfold startWorker Worker.start
  rw [show (r.seen f).world.broker = f r.world.broker from rfl, follows.subscribe,
    follows.scenario, follows.settings]
  generalize follower.client.subscribe plan.scenario.target r.world.broker = answer
  obtain ⟨result, broker⟩ := answer
  cases result <;> rfl

theorem publishOne_seen (follows : follower.Follows f plan) (m : Message) (rest : List Message)
    (failed : Option Failure) :
    (r.seen f).publishOne plan m rest failed =
      (r.publishOne follower m rest failed).seen f := by
  unfold publishOne
  rw [show (r.seen f).world.broker = f r.world.broker from rfl, follows.publish,
    follows.scenario, follows.settings]
  generalize follower.producer.publish plan.scenario.target.topic m r.world.broker = answer
  obtain ⟨result, broker⟩ := answer
  cases result with
  | ok => rfl
  | error e => cases plan.settings.publishMode <;> rfl

theorem leftOpen_seen (room : Nat) (unmet : List SignalId) :
    (r.seen f).leftOpen room unmet = r.leftOpen room unmet := by
  induction unmet generalizing room with
  | nil => rfl
  | cons id rest ih =>
      unfold leftOpen
      rw [show (r.seen f).world.count id = r.world.count id from rfl]
      split
      · cases room with
        | zero => exact congrArg (id :: ·) (ih 0)
        | succ room => exact ih room
      · exact congrArg (id :: ·) (ih room)

theorem lookLimit_eq (follows : follower.Follows f plan) : follower.lookLimit = plan.lookLimit := by
  unfold Plan.lookLimit
  rw [follows.settings]

theorem wait_seen (follows : follower.Follows f plan) (unmet : List SignalId) :
    (r.seen f).wait plan unmet = (r.wait follower unmet).map (Run.seen f) := by
  unfold wait
  rw [lookLimit_eq follows, leftOpen_seen]
  dsimp only
  split
  · rfl
  · split <;> rfl

theorem sumPending_seen (follows : follower.Follows f plan) :
    (r.seen f).sumPending plan = (r.sumPending follower).seen f := by
  unfold sumPending
  rw [follows.scenario, follows.settings]
  dsimp only
  show (if Word.total (List.map r.world.count _) < _ then _ else _) = _
  split <;> rfl

theorem verify_seen (follows : follower.Follows f plan) :
    (r.seen f).verify plan = (r.verify follower).seen f := by
  unfold verify
  rw [follows.scenario, show (r.seen f).world.journal = r.world.journal from rfl]
  generalize plan.scenario.standard.verify r.world.journal.snapshot = verdict
  cases verdict <;> rfl

theorem stopNext_seen (index : Nat) :
    (r.seen f).stopNext index = (r.stopNext index).seen f := by
  unfold stopNext
  rw [show (r.seen f).workers = r.workers from rfl]
  cases r.workers[index]? with
  | none => rfl
  | some w =>
      dsimp only
      generalize w.beginStop = asked
      obtain ⟨waits, w'⟩ := asked
      cases waits <;> rfl

theorem finishStop_seen (follows : follower.Follows f plan) (index : Nat) (w : Worker)
    (outcome : StopOutcome) :
    (r.seen f).finishStop plan index w outcome =
      (r.finishStop follower index w outcome).seen f := by
  unfold finishStop
  rw [show (r.seen f).world.broker = f r.world.broker from rfl,
    Worker.finishStop_seen follows]
  generalize w.finishStop follower.client outcome r.world.broker = answer
  obtain ⟨result, w', broker⟩ := answer
  cases result <;> rfl

theorem awaitLoop_seen (follows : follower.Follows f plan) (index : Nat) :
    (r.seen f).awaitLoop plan index = (r.awaitLoop follower index).map (Run.seen f) := by
  unfold awaitLoop
  rw [show (r.seen f).workers = r.workers from rfl]
  cases r.workers[index]? with
  | none => rfl
  | some w =>
      dsimp only
      cases w.ending? with
      | none => rfl
      | some ending => exact congrArg some (finishStop_seen follows index w _)

theorem abandonLoop_seen (follows : follower.Follows f plan) (index : Nat) :
    (r.seen f).abandonLoop plan index = (r.abandonLoop follower index).map (Run.seen f) := by
  unfold abandonLoop
  rw [show (r.seen f).workers = r.workers from rfl]
  cases r.workers[index]? with
  | none => rfl
  | some w =>
      dsimp only
      cases w.ending? with
      | some ending => exact congrArg some (finishStop_seen follows index w _)
      | none =>
          dsimp only
          cases w.abort? with
          | none => rfl
          | some w' => exact congrArg some (finishStop_seen follows index w' _)

theorem close_seen (follows : follower.Follows f plan) :
    (r.seen f).close plan = (r.close follower).seen f := by
  unfold close
  rw [show (r.seen f).world.broker = f r.world.broker from rfl, follows.close]
  generalize follower.client.close r.world.broker = answer
  obtain ⟨result, broker⟩ := answer
  cases result <;> rfl

theorem runnerStep_seen (follows : follower.Follows f plan) :
    (r.seen f).runnerStep plan = (r.runnerStep follower).map (Run.seen f) := by
  unfold runnerStep
  rw [show (r.seen f).stage = r.stage from rfl]
  split
  · exact congrArg some (startWorker_seen follows _ _)
  · unfold afterStart
    rw [show (r.seen f).startFailures = r.startFailures from rfl]
    cases r.startFailures <;> rfl
  · unfold settle
    rw [follows.scenario, follows.settings]
    rfl
  · exact congrArg some (publishOne_seen follows _ _ _)
  · rename_i failed _
    unfold afterPublish
    rw [follows.scenario]
    cases failed <;> rfl
  · exact wait_seen follows _
  · exact congrArg some (sumPending_seen follows)
  · exact congrArg some (verify_seen follows)
  · unfold judge
    rw [follows.settings]
    rfl
  · exact congrArg some (stopNext_seen _)
  · exact awaitLoop_seen follows _
  · exact abandonLoop_seen follows _
  · exact congrArg some (close_seen follows)
  · unfold report
    rw [follows.scenario]
    rfl
  · rfl
  · rfl

theorem timeoutStep_seen (follows : follower.Follows f plan) :
    (r.seen f).timeoutStep plan = (r.timeoutStep follower).map (Run.seen f) := by
  unfold timeoutStep
  rw [show (r.seen f).stage = r.stage from rfl, follows.settings]
  split
  · rw [lookLimit_eq follows, leftOpen_seen]
    split <;> rfl
  · rename_i index _
    rw [show (r.seen f).workers = r.workers from rfl]
    cases r.workers[index]? with
    | none => rfl
    | some w =>
        dsimp only
        cases w.ending? <;> rfl
  · rfl

theorem workerStep_seen (follows : follower.Follows f plan) (index : Nat) :
    (r.seen f).workerStep plan index = (r.workerStep follower index).map (Run.seen f) := by
  unfold workerStep
  rw [show (r.seen f).workers = r.workers from rfl]
  cases r.workers[index]? with
  | none => rfl
  | some w =>
      dsimp only
      unfold Worker.step
      cases w.loop with
      | none => rfl
      | some l =>
          dsimp only
          rw [show (r.seen f).world = r.world.seen f from rfl,
            Loop.step_seen follows l r.world]
          cases l.step follower.client r.world <;> rfl

/-- **Every step is seen through.** What one run can do the other can, and to the same effect. -/
theorem step_seen (follows : follower.Follows f plan) (s : Step) :
    (r.seen f).step plan s = (r.step follower s).map (Run.seen f) := by
  cases s with
  | runner => exact runnerStep_seen follows
  | worker index => exact workerStep_seen follows index
  | timeout => exact timeoutStep_seen follows
  | gate name => rfl
  | broker =>
      show some _ = some _
      rw [show (r.seen f).world.broker = f r.world.broker from rfl, follows.advance]
      rfl

/-! ## The logged plan -/

theorem logged_follows (plan : Plan σ) : plan.logged.Follows Logged.broker plan where
  scenario := rfl
  settings := rfl
  subscribe _ _ := rfl
  receive _ _ := rfl
  unsubscribe _ _ := rfl
  release _ _ := rfl
  close _ := rfl
  advance _ := rfl
  publish _ _ _ := rfl

/-- Without the log, a step of the logged plan is a step of the plan. -/
theorem step_unlogged (plan : Plan σ) (r : Run (Logged σ)) (s : Step) :
    (r.seen Logged.broker).step plan s = (r.step plan.logged s).map (Run.seen Logged.broker) :=
  step_seen (logged_follows plan) s

theorem Reachable.unlogged {plan : Plan σ} {start : Logged σ} {r : Run (Logged σ)}
    (reachable : Reachable plan.logged start r) :
    Reachable plan start.broker (r.seen Logged.broker) := by
  induction reachable with
  | initial => exact .initial
  | step s _ taken ih => exact ih.step s (by rw [step_unlogged, taken]; rfl)

/-- Every run of the plan can be logged. -/
theorem Reachable.logged {plan : Plan σ} {broker : σ} {r : Run σ}
    (reachable : Reachable plan broker r) (log : List Deed) :
    ∃ r', Reachable plan.logged ⟨broker, log⟩ r' ∧ r'.seen Logged.broker = r := by
  induction reachable with
  | initial => exact ⟨_, .initial, rfl⟩
  | step s _ taken ih =>
      obtain ⟨r', reachable', rfl⟩ := ih
      rw [step_unlogged] at taken
      rcases Option.map_eq_some_iff.1 taken with ⟨next, taken', rfl⟩
      exact ⟨next, reachable'.step s taken', rfl⟩

end Run

end DeliveryBench
