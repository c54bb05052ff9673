import DeliveryBench.Proofs.Run.Barrier
import DeliveryBench.Proofs.Run.Posts
import Mathlib.Algebra.Order.BigOperators.Group.List
import Mathlib.Algebra.Order.Group.Nat

/-!
# Every run comes to its end

Some steps press a run on towards its end: those of the runner, a timeout that runs out, and those
of a loop that has been given up (`Moment.presses`). Each brings the end nearer, and no other step
moves it away (`toGo_step`). So a run takes at most so many of them, whatever its broker, its
handlers and its other steps are like (`Through.presses_le`).

And as long as the runner is not through, one of them can be taken (`Reachable.can_press`). So every
run can be brought to its end from wherever it is, and that is a report, unless the sum of what is
missing on the signals was no word (`CountsFit`, `Through.completes`).
-/

namespace DeliveryBench

variable {σ : Type}

/-- Whether the runner is through, with a report or without. -/
def Stage.isOver : Stage → Bool
  | .done _ | .crashed _ => true
  | _ => false

/-- The steps that a loop is away from its end, once it has been asked to stop. -/
def Phase.toGo : Phase → Nat
  | .handling .. => 4
  | .observed .. => 3
  | .recorded _ => 2
  | .idle => 1
  | .ended _ => 0

theorem Phase.toGo_le (phase : Phase) : phase.toGo ≤ 4 := by
  cases phase <;> simp [Phase.toGo]

/-- A loop that has been asked to stop comes nearer to its end with every step. -/
theorem Loop.Move.toGo_lt {client : Client σ} {l l' : Loop} {w w' : World σ}
    (move : Loop.Move client l w l' w') (asked : l.stopRequested = true) :
    l'.phase.toGo < l.phase.toGo := by
  cases move with
  | took _ goesOn | deserted _ goesOn | broke _ goesOn => cases asked.symm.trans goesOn
  | stopped phase | observed phase | collapsed phase | passed phase | failed phase
  | counted phase =>
      rw [phase]
      simp [Phase.toGo]

/-- The steps that the loop at a place is away from its end, if it has been asked to stop. -/
def Run.loopToGo (r : Run σ) (index : Nat) : Nat :=
  match r.workers[index]?.bind Worker.loop with
  | none => 0
  | some l => l.phase.toGo

/-- A bound on the pressing steps from the time when the worker at a place is to be stopped. -/
def Plan.teardownToGo (plan : Plan σ) (index : Nat) : Nat :=
  8 * (plan.scenario.workers.length - index) + 3

/-- A bound on the pressing steps that a run is away from its end. -/
def Run.toGo (plan : Plan σ) (r : Run σ) : Nat :=
  let signals := Scenario.distinctSignals plan.scenario.workers
  match r.stage with
  | .starting rest =>
    plan.teardownToGo 0 + signals.length + plan.scenario.messages.length + rest.length + 6
  | .settling => plan.teardownToGo 0 + signals.length + plan.scenario.messages.length + 5
  | .publishing rest _ => plan.teardownToGo 0 + signals.length + rest.length + 4
  | .waiting unmet => plan.teardownToGo 0 + unmet.length + 3
  | .overdue | .verifying => plan.teardownToGo 0 + 2
  | .judging => plan.teardownToGo 0 + 1
  | .stopping index => plan.teardownToGo index
  | .awaiting index => plan.teardownToGo index - 1
  | .abandoning index => plan.teardownToGo index - 7 + r.loopToGo index
  | .closing => 2
  | .reporting => 1
  | .done _ | .crashed _ => 0

/-- A bound on the pressing steps of a run. -/
def Plan.patience (plan : Plan σ) : Nat :=
  plan.teardownToGo 0 + (Scenario.distinctSignals plan.scenario.workers).length
    + plan.scenario.messages.length + plan.scenario.workers.length + 6

namespace Run

/-- Whether a step presses the run on. -/
def Moment.presses (x : Moment σ) : Bool :=
  match x.step with
  | .runner | .timeout => true
  | .worker index =>
    match x.before.stage with
    | .abandoning leaver => leaver == index
    | _ => false
  | _ => false

variable {plan : Plan σ} {broker : σ} {past : List (Moment σ)} {r r' : Run σ} {s : Step}

/-! ## The end comes nearer -/

theorem loopToGo_le (r : Run σ) (index : Nat) : r.loopToGo index ≤ 4 := by
  unfold loopToGo
  split
  · exact Nat.zero_le 4
  · exact Phase.toGo_le _

theorem Turn.toGo_lt (turn : Turn plan r r')
    (inside : ∀ index, r.workers[index]?.isSome → index < plan.scenario.workers.length) :
    r'.toGo plan < r.toGo plan := by
  cases turn with
  | startedOne stage | startFailed stage | startedAll stage | settled stage | published stage
  | publishRefused stage | publishNoted stage | publishFailed stage | publishedAll stage
  | metAll stage | timedOut stage | overflowed stage | violated stage | verified stage
  | judged stage | closed stage | reported stage | stoppedAll stage =>
      unfold toGo
      rw [stage]
      simp [startWorker, settle, tearDown, enter, judge, close, Plan.teardownToGo] <;> omega
  | metSome stage fewer =>
      unfold toGo
      rw [stage]
      simpa using fewer
  | marked stage there | asked stage there | ended stage there | endedLate stage there
  | aborted stage there =>
      have before := inside _ (by rw [there]; rfl)
      unfold toGo
      rw [stage]
      simp only [finishStop, setWorker, Plan.teardownToGo]
      omega

theorem Roster.lt_of_isSome (roster : Roster plan r) (index : Nat)
    (there : r.workers[index]?.isSome) : index < plan.scenario.workers.length := by
  obtain ⟨w, there⟩ := Option.isSome_iff_exists.1 there
  exact (List.getElem?_eq_some_iff.1 (roster.spec_at there)).1

/-- The loop that is given up has been asked to stop. -/
theorem Posts.asked {results : List (Except BrokerError Ticket)} (posts : Posts plan r results)
    {index : Nat} {w : Worker} (leaver : r.stage.leaver? = some index)
    (torn : r.stage.torn r.workers.length = index) (there : r.workers[index]? = some w) :
    ∃ l, w.loop = some l ∧ l.stopRequested = true := by
  obtain ⟨_, -, stands⟩ := posts.exists_at there
  rw [post_of_leaver leaver torn, if_neg (Nat.lt_irrefl index), if_pos rfl] at stands
  cases stands with
  | leaves _ _ loop asked => exact ⟨_, loop, asked⟩

theorem loopToGo_set {index : Nat} {w : Worker} (there : r.workers[index]? = some w)
    (place : Nat) (l' : Loop) (world : World σ) :
    ({ r.setWorker index { w with loop := some l' } with world := world } : Run σ).loopToGo place =
      if index = place then l'.phase.toGo else r.loopToGo place := by
  unfold loopToGo
  show (match (r.workers.set index { w with loop := some l' })[place]?.bind Worker.loop with
    | none => 0
    | some l => l.phase.toGo) = _
  rw [List.getElem?_set]
  by_cases here : index = place
  · subst here
    rw [if_pos rfl, if_pos rfl, if_pos (List.getElem?_eq_some_iff.1 there).1]
    rfl
  · rw [if_neg here, if_neg here]

theorem loopToGo_eq {index : Nat} {w : Worker} {l : Loop} (there : r.workers[index]? = some w)
    (loop : w.loop = some l) : r.loopToGo index = l.phase.toGo := by
  unfold loopToGo
  rw [there, Option.bind_some, loop]

/-- Of a run that stays in its stage only the loop that has been given up comes nearer to its end. -/
theorem toGo_of_stage (stage : r'.stage = r.stage)
    (loop : ∀ index, r.stage = .abandoning index → r'.loopToGo index = r.loopToGo index) :
    r'.toGo plan = r.toGo plan := by
  unfold toGo
  rw [stage]
  split <;> try rfl
  rw [loop _ ‹_›]

/-- A step that presses brings the end nearer, and no step moves it away. -/
theorem toGo_step (roster : Roster plan r) {results : List (Except BrokerError Ticket)}
    (posts : Posts plan r results) (taken : r.step plan s = some r') :
    r'.toGo plan + (if (⟨r, s⟩ : Moment σ).presses then 1 else 0) ≤ r.toGo plan := by
  cases s with
  | runner => exact (runnerStep_turn taken).toGo_lt roster.lt_of_isSome
  | timeout =>
      rcases timeoutStep_cases taken with ⟨unmet, stage, -, rfl⟩ | ⟨index, w, stage, there, -, rfl⟩
      · unfold toGo
        rw [stage]
        simp [Moment.presses]
      · have before := roster.lt_of_isSome index (by rw [there]; rfl)
        have near : ({ r with
            stage := .abandoning index
            clock := r.clock + w.stopTimeout.toNanos } : Run σ).loopToGo index ≤ 4 :=
          loopToGo_le _ index
        unfold toGo
        rw [stage]
        simp only [Moment.presses, Plan.teardownToGo, if_true]
        omega
  | worker index =>
      rcases workerStep_move taken with ⟨w, l, l', world, there, loop, move, rfl⟩
      by_cases given : r.stage = .abandoning index
      · -- the loop has been asked to stop, so it takes no further message
        obtain ⟨l₀, there₀, asked⟩ :=
          posts.asked (by rw [given]; rfl) (by rw [given]; rfl) there
        obtain rfl := Option.some.inj (loop.symm.trans there₀)
        have nearer := move.toGo_lt asked
        have after := loopToGo_set there index l' world
        rw [if_pos rfl] at after
        unfold toGo
        simp only [setWorker, given, Moment.presses] at after ⊢
        rw [after, loopToGo_eq there loop]
        simp
        omega
      · have calm : (⟨r, .worker index⟩ : Moment σ).presses = false := by
          unfold Moment.presses
          dsimp only
          split
          · rename_i leaver stage
            rw [beq_eq_false_iff_ne]
            rintro rfl
            exact given stage
          · rfl
        rw [calm]
        refine Nat.le_of_eq (toGo_of_stage rfl ?_)
        intro leaver stage
        rw [loopToGo_set there leaver, if_neg]
        rintro rfl
        exact given stage
  | gate name =>
      cases taken
      exact Nat.le_of_eq (toGo_of_stage rfl fun _ _ => rfl)
  | broker =>
      cases taken
      exact Nat.le_of_eq (toGo_of_stage rfl fun _ _ => rfl)

/-! ## A run takes only so many steps that press it on -/

theorem toGo_initial (plan : Plan σ) (broker : σ) :
    (initial plan broker).toGo plan = plan.patience := by
  show plan.teardownToGo 0 + _ + _ + plan.scenario.workers.length + 6 = _
  rfl

/-- However a run goes, only so many of its steps press it on. -/
theorem Through.presses_le (through : Through plan broker past r) :
    past.countP Moment.presses + r.toGo plan ≤ plan.patience := by
  induction through with
  | initial =>
      rw [List.countP_nil, Nat.zero_add]
      exact Nat.le_of_eq (toGo_initial plan broker)
  | @step past r r' s through taken ih =>
      have nearer := toGo_step through.reachable.roster through.posts taken
      rw [List.countP_append, List.countP_singleton]
      omega

/-! ## There is always a step that presses a run on -/

theorem wait_or_timeout {unmet : List SignalId} (stage : r.stage = .waiting unmet) :
    (∃ r', r.step plan .runner = some r') ∨ ∃ r', r.step plan .timeout = some r' := by
  by_cases left : (r.leftOpen plan.lookLimit unmet).isEmpty
  · left
    refine ⟨r.enter .verifying .verifying, ?_⟩
    show r.runnerStep plan = _
    unfold runnerStep wait
    rw [stage]
    dsimp only
    rw [if_pos left]
  · right
    refine ⟨{ r with
      stage := .overdue
      clock := r.clock + plan.settings.waitTimeout.toNanos }, ?_⟩
    show r.timeoutStep plan = _
    unfold timeoutStep
    rw [stage]
    dsimp only
    rw [if_neg left]

theorem await_or_timeout {index : Nat} (stage : r.stage = .awaiting index)
    (there : index < r.workers.length) :
    (∃ r', r.step plan .runner = some r') ∨ ∃ r', r.step plan .timeout = some r' := by
  have there := List.getElem?_eq_getElem there
  generalize r.workers[index] = w at there
  cases ended : w.ending? with
  | some ending =>
      left
      refine ⟨r.finishStop plan index w (.ended ending), ?_⟩
      show r.runnerStep plan = _
      unfold runnerStep awaitLoop
      rw [stage]
      dsimp only
      rw [there]
      dsimp only
      rw [ended]
      rfl
  | none =>
      right
      refine ⟨{ r with
        stage := .abandoning index
        clock := r.clock + w.stopTimeout.toNanos }, ?_⟩
      show r.timeoutStep plan = _
      unfold timeoutStep
      rw [stage]
      dsimp only
      rw [there]
      dsimp only
      rw [ended]

/-- A loop that has been given up either can be done with or goes on by itself: it cannot be aborted
only between the steps of which none waits for anything. -/
theorem abandon_or_move {index : Nat} {w : Worker} {l : Loop}
    (stage : r.stage = .abandoning index) (there : r.workers[index]? = some w)
    (loop : w.loop = some l) :
    (∃ r', r.step plan .runner = some r') ∨ ∃ r', r.step plan (.worker index) = some r' := by
  have runner : r.step plan .runner = r.abandonLoop plan index := by
    show r.runnerStep plan = _
    unfold runnerStep
    rw [stage]
  have worker : r.step plan (.worker index) = r.workerStep plan index := rfl
  rw [runner, worker]
  unfold abandonLoop workerStep Worker.ending? Worker.abort? Worker.step
  rw [there]
  dsimp only
  rw [loop]
  dsimp only [Option.bind_some]
  unfold Loop.ending? Loop.abort? Loop.step
  cases phase : l.phase with
  | idle | handling | ended => exact .inl ⟨_, rfl⟩
  | observed | recorded => exact .inr ⟨_, rfl⟩

/-- As long as the runner is not through, there is a step that presses the run on. -/
theorem Reachable.can_press (reachable : Reachable plan broker r)
    (going : r.stage.isOver = false) :
    ∃ s r', r.step plan s = some r' ∧ (⟨r, s⟩ : Moment σ).presses = true := by
  obtain ⟨past, through⟩ := reachable.through
  have posts := through.posts
  have free {r' : Run σ} (taken : r.runnerStep plan = some r') :
      ∃ s r', r.step plan s = some r' ∧ (⟨r, s⟩ : Moment σ).presses = true :=
    ⟨.runner, r', taken, rfl⟩
  have either (taken : (∃ r', r.step plan .runner = some r') ∨ ∃ r', r.step plan .timeout = some r') :
      ∃ s r', r.step plan s = some r' ∧ (⟨r, s⟩ : Moment σ).presses = true := by
    rcases taken with ⟨r', taken⟩ | ⟨r', taken⟩
    · exact ⟨.runner, r', taken, rfl⟩
    · exact ⟨.timeout, r', taken, rfl⟩
  cases stage : r.stage with
  | starting rest =>
      cases rest with
      | nil | cons => exact free (by unfold runnerStep; rw [stage])
  | settling | overdue | verifying | judging | stopping | closing | reporting =>
      exact free (by unfold runnerStep; rw [stage])
  | publishing rest failed =>
      cases rest with
      | nil | cons => exact free (by unfold runnerStep; rw [stage])
  | waiting unmet => exact either (wait_or_timeout stage)
  | awaiting index => exact either (await_or_timeout stage (posts.present index (by rw [stage]; rfl)))
  | abandoning index =>
      have inside := posts.present index (by rw [stage]; rfl)
      have there := List.getElem?_eq_getElem inside
      obtain ⟨l, loop, -⟩ := posts.asked (by rw [stage]; rfl) (by rw [stage]; rfl) there
      rcases abandon_or_move stage there loop with ⟨r', taken⟩ | ⟨r', taken⟩
      · exact ⟨.runner, r', taken, rfl⟩
      · refine ⟨.worker index, r', taken, ?_⟩
        unfold Moment.presses
        dsimp only
        rw [stage]
        exact beq_self_eq_true index
  | done | crashed =>
      rw [stage] at going
      cases going

/-- From wherever a run is, steps that press it on bring it to its end. -/
theorem Through.ends (through : Through plan broker past r) :
    ∃ later r', Through plan broker (past ++ later) r' ∧ r'.stage.isOver = true := by
  induction far : r.toGo plan using Nat.strongRecOn generalizing past r with
  | ind n ih =>
      cases finished : r.stage.isOver with
      | true => exact ⟨[], r, by rwa [List.append_nil], finished⟩
      | false =>
          obtain ⟨s, next, taken, presses⟩ := through.reachable.can_press finished
          have nearer := toGo_step through.reachable.roster through.posts taken
          rw [presses, if_pos rfl, far] at nearer
          obtain ⟨later, r', through', finished'⟩ := ih _ (by omega) (through.step s taken) rfl
          exact ⟨⟨r, s⟩ :: later, r', by rwa [List.append_cons], finished'⟩

/-! ## The runner breaks down only over the sum of what is missing -/

/-- Whenever the time for waiting runs out, the sum of what is missing on the signals is a word. -/
def CountsFit (plan : Plan σ) (broker : σ) : Prop :=
  ∀ r, Reachable plan broker r → r.stage = .overdue →
    Word.total ((Scenario.distinctSignals plan.scenario.workers).map r.world.count) < Word.limit

/-- Nothing is ever added to what is missing. -/
theorem Reachable.count_le (reachable : Reachable plan broker r) (id : SignalId) :
    r.world.count id ≤ (Run.initial plan broker).world.count id := by
  obtain ⟨past, through⟩ := reachable.through
  obtain ⟨-, barrier⟩ := through.barrier
  cases there : plan.scenario.signals[id]? with
  | none =>
      unfold World.count
      rw [barrier.signals, List.getElem?_mapIdx, there]
      exact Nat.zero_le _
  | some signal =>
      rw [barrier.count_eq there, (barrier_initial plan broker).count_eq there]
      exact Nat.sub_le _ _

/-- It is enough that the counts at the start add up to a word. -/
theorem countsFit_of_start
    (fits : Word.total ((Scenario.distinctSignals plan.scenario.workers).map
      (initial plan broker).world.count) < Word.limit) : CountsFit plan broker := by
  intro r reachable _
  exact Nat.lt_of_le_of_lt (List.sum_le_sum fun id _ => reachable.count_le id) fits

theorem Course.crashed {text : String} (course : Course plan r s r')
    (stage' : r'.stage = .crashed text) :
    r.stage = .crashed text ∨ r.stage = .overdue ∧
      ¬ Word.total ((Scenario.distinctSignals plan.scenario.workers).map r.world.count) <
        Word.limit := by
  cases course with
  | turned _ turn =>
      cases turn with
      | overflowed overdue tooMany => exact .inr ⟨overdue, tooMany⟩
      | _ => cases stage'
  | ranOut | gaveUp => cases stage'
  | aside same => exact .inl (same.stage.symm.trans stage')

theorem Reachable.not_crashed (fits : CountsFit plan broker) (reachable : Reachable plan broker r)
    (text : String) : r.stage ≠ .crashed text := by
  induction reachable with
  | initial => exact nofun
  | step s reachable taken ih =>
      intro crashed
      rcases (step_course taken).crashed crashed with before | ⟨overdue, tooMany⟩
      · exact ih before
      · exact tooMany (fits _ reachable overdue)

theorem Reachable.exists_report (fits : CountsFit plan broker)
    (reachable : Reachable plan broker r) (finished : r.stage.isOver = true) :
    ∃ report, r.stage = .done report := by
  cases stage : r.stage with
  | done report => exact ⟨report, rfl⟩
  | crashed text => exact absurd stage (reachable.not_crashed fits text)
  | _ =>
      rw [stage] at finished
      cases finished

/-- **Every run comes to a report.** However far it has got, steps that press it on bring it there. -/
theorem Through.completes (fits : CountsFit plan broker) (through : Through plan broker past r) :
    ∃ later r' report, Through plan broker (past ++ later) r' ∧ r'.stage = .done report := by
  obtain ⟨later, r', through', finished⟩ := through.ends
  obtain ⟨report, stage⟩ := through'.reachable.exists_report fits finished
  exact ⟨later, r', report, through', stage⟩

end Run

end DeliveryBench
