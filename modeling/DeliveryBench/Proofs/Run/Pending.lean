import DeliveryBench.Proofs.Run.Lives
import DeliveryBench.Proofs.Run.Teardown
import DeliveryBench.Proofs.Scenario.Build

/-!
# What is pending when the time is up

Up to the teardown every delivery on record has been counted, or its worker still owes it to the
signal (`Through.settled`). So when the time for waiting has run out and nobody is in the middle of
a delivery, what is left on a signal is what its workers have not been delivered
(`Scenario.missing`), and the failure of the run names the sum over all signals
(`timeout_names_what_is_missing`).

Caveat: the sum is added up in a word, and nothing keeps it from running over. Where it does, the
runner breaks down: the workers are not stopped, the client is not closed, and there is no report
(`run_ends_without_teardown`).

Caveat: with more signals at zero than the runner can take note of in one look, the time can run out
although nothing is missing.
-/

namespace DeliveryBench

variable {σ : Type}

/-- How many deliveries to the workers that carry a signal a snapshot lacks. -/
def Scenario.missing (s : Scenario) (snapshot : Snapshot) (id : SignalId) : Nat :=
  (s.signals[id]?.map Signal.expected).getD 0 -
    snapshot.observations.countP fun o => (s.carriers id).contains o.worker

/-- Where names tell workers apart, those who carry a signal are known by their names. -/
theorem Scenario.carriers_contains {s : Scenario}
    (distinct : (s.workers.map WorkerSpec.name).Nodup) {w : WorkerSpec} (known : w ∈ s.workers)
    (id : SignalId) : (s.carriers id).contains w.name = (w.signal == some id) := by
  rw [Bool.eq_iff_iff, List.contains_iff_mem]
  constructor
  · intro member
    obtain ⟨v, carrier, same⟩ := List.mem_map.1 member
    obtain ⟨known', carries⟩ := List.mem_filter.1 carrier
    rwa [← List.inj_on_of_nodup_map distinct known' known same]
  · intro carries
    exact List.mem_map_of_mem (List.mem_filter.2 ⟨known, carries⟩)

namespace Run

variable {plan : Plan σ} {broker : σ} {past : List (Moment σ)} {r r' : Run σ} {s : Step}

/-! ## Nothing is lost between the journal and the signals -/

/-- A step of a loop of whose errors a text can be made: what it puts on record it owes, and what it
owes no longer it has counted. -/
theorem settles {index : Nat} {w : Worker} {l l' : Loop} {world : World σ} {id : SignalId}
    (there : r.workers[index]? = some w) (loop : w.loop = some l) (orders : l.spec = w.spec)
    (printable : ∀ m sequence text, l.phase ≠ .observed m sequence (.unprintable text))
    (carrier : (plan.scenario.carriers id).contains w.spec.name = (w.spec.signal == some id))
    (move : Loop.Move plan.client l r.world l' world) :
    (if (⟨r, .worker index⟩ : Moment σ).countedOn? = some id then 1 else 0) +
        (if Worker.owes id { w with loop := some l' } then 1 else 0) +
        r.world.journal.deliveredTo (plan.scenario.carriers id) =
      (if Worker.owes id w then 1 else 0) +
        world.journal.deliveredTo (plan.scenario.carriers id) := by
  have mover := loop?_worker there loop
  cases move with
  | stopped phase => simp [Worker.owes, Moment.countedOn?, mover, loop, phase]
  | took phase =>
      simp [Worker.owes, Moment.countedOn?, mover, loop, phase, Loop.take, World.withBroker]
  | deserted phase =>
      simp [Worker.owes, Moment.countedOn?, mover, loop, phase, World.withBroker]
  | broke phase =>
      simp [Worker.owes, Moment.countedOn?, mover, loop, phase, World.withBroker]
  | observed phase =>
      rw [deliveredTo_record, orders, carrier]
      simp [Worker.owes, Moment.countedOn?, mover, loop, phase]
      omega
  | collapsed phase => exact absurd phase (printable _ _ _)
  | passed phase => simp [Worker.owes, Moment.countedOn?, mover, loop, phase]
  | failed phase =>
      simp [Worker.owes, Moment.countedOn?, mover, loop, phase, Journal.deliveredTo,
        Journal.recordFailure]
  | counted phase =>
      simp [Worker.owes, Moment.countedOn?, mover, loop, phase, orders]

/-- Up to the teardown the runner leaves the workers that have been started, and the journal, as
they are. -/
theorem Turn.steady (turn : Turn plan r r') (undecided : r.stage.isDecided = false) :
    (∃ spec rest, r' = r.startWorker plan spec rest) ∨
      r'.workers = r.workers ∧ r'.world.journal = r.world.journal := by
  cases turn with
  | startedOne => exact .inl ⟨_, _, rfl⟩
  | startFailed | startedAll | settled | published | publishRefused | publishNoted | publishFailed
  | publishedAll | metAll | metSome | timedOut | overflowed | violated | verified | judged =>
      exact .inr ⟨rfl, rfl⟩
  | stoppedAll stage | marked stage | asked stage | ended stage | endedLate stage | aborted stage
  | closed stage | reported stage =>
      rw [stage] at undecided
      cases undecided

/-- Up to the teardown, every delivery on record has been counted, or is still owed. -/
theorem Through.settled (distinct : (plan.scenario.workers.map WorkerSpec.name).Nodup)
    (printable : ∀ w ∈ plan.scenario.workers, w.Printable) (through : Through plan broker past r)
    (undecided : r.stage.isDecided = false) (id : SignalId) :
    countDowns past id + r.workers.countP (Worker.owes id) =
      r.world.journal.deliveredTo (plan.scenario.carriers id) := by
  induction through with
  | initial => rfl
  | @step past r r' s through taken ih =>
      -- Only the loops write to the journal or count, and up to the teardown nobody aborts them.
      have before : r.stage.isDecided = false := by
        rw [← Bool.not_eq_true]
        intro decided
        rw [((step_course taken).stands decided).decided] at undecided
        cases undecided
      have settled := ih before
      rw [countDowns_snoc]
      have idle (other : ∀ index, s ≠ .worker index) (workers : r'.workers = r.workers)
          (journal : r'.world.journal = r.world.journal) :
          countedAfter (countDowns past) ⟨r, s⟩ id + r'.workers.countP (Worker.owes id) =
            r'.world.journal.deliveredTo (plan.scenario.carriers id) := by
        rw [countedAfter_of_none (countedOn?_eq_none other), workers, journal]
        exact settled
      cases s with
      | worker index =>
          obtain ⟨w, l, l', world, there, loop, move, rfl⟩ := workerStep_move taken
          have roster := through.reachable.roster
          have told := roster.spec_at there
          have known : w.spec ∈ plan.scenario.workers := List.mem_of_getElem? told
          obtain ⟨lived, lives, -⟩ := through.lives distinct told
          rw [workerAt_of_some there] at lives
          have tally := (lives.kept rfl (printable _ known)).busy l loop
          have change := settles there loop tally.told tally.printable
            (Scenario.carriers_contains distinct known id) move
          have owed := countP_set_add (Worker.owes id) { w with loop := some l' } there
          show countedAfter (countDowns past) _ id + (r.workers.set index _).countP _ =
            world.journal.deliveredTo _
          rw [countedAfter]
          omega
      | runner =>
          rcases (runnerStep_turn taken).steady before with ⟨spec, rest, rfl⟩ | ⟨workers, journal⟩
          · rw [countedAfter_of_none (countedOn?_eq_none (s := .runner) (by simp))]
            obtain ⟨w, workers, -, fresh⟩ := startWorker_workers plan r spec rest
            have nothing : w.owes id = false := by
              unfold Worker.owes
              cases there : w.loop with
              | none => simp
              | some l => simp [(fresh l there).2]
            rw [workers, List.countP_append, List.countP_singleton, nothing]
            exact settled
          · exact idle (by simp) workers journal
      | timeout =>
          rcases timeoutStep_cases taken with ⟨unmet, -, -, rfl⟩ | ⟨index, w, -, -, -, rfl⟩
          · exact idle (by simp) rfl rfl
          · exact idle (by simp) rfl rfl
      | gate name =>
          cases taken
          exact idle (by simp) rfl rfl
      | broker =>
          cases taken
          exact idle (by simp) rfl rfl

/-- With nobody in the middle of a delivery, what is left on a signal is what its workers have not
been delivered. -/
theorem Through.count_eq_missing (distinct : (plan.scenario.workers.map WorkerSpec.name).Nodup)
    (printable : ∀ w ∈ plan.scenario.workers, w.Printable)
    (fresh : ∀ signal ∈ plan.scenario.signals, signal.count = signal.expected)
    (through : Through plan broker past r) (undecided : r.stage.isDecided = false)
    (atRest : ∀ w ∈ r.workers, ∀ id, w.owes id = false) (id : SignalId) :
    r.world.count id = plan.scenario.missing r.world.journal.snapshot id := by
  have settled := through.settled distinct printable undecided id
  obtain ⟨-, barrier⟩ := through.barrier
  have nothing : r.workers.countP (Worker.owes id) = 0 :=
    List.countP_eq_zero.2 fun w member => by simp [atRest w member id]
  unfold Scenario.missing
  rw [deliveredTo_eq, ← settled, nothing, Nat.add_zero]
  cases there : plan.scenario.signals[id]? with
  | none =>
      unfold World.count
      rw [barrier.signals, List.getElem?_mapIdx, there]
      exact (Nat.zero_sub _).symm
  | some signal =>
      rw [barrier.count_eq there, fresh signal (List.mem_of_getElem? there)]
      rfl

/-- So is the sum over all signals that workers carry. -/
theorem Through.total_eq_missing (distinct : (plan.scenario.workers.map WorkerSpec.name).Nodup)
    (printable : ∀ w ∈ plan.scenario.workers, w.Printable)
    (fresh : ∀ signal ∈ plan.scenario.signals, signal.count = signal.expected)
    (through : Through plan broker past r) (overdue : r.stage = .overdue)
    (atRest : ∀ w ∈ r.workers, ∀ id, w.owes id = false) (signals : List SignalId) :
    Word.total (signals.map r.world.count) =
      Word.total (signals.map (plan.scenario.missing r.world.journal.snapshot)) := by
  have undecided : r.stage.isDecided = false := by
    rw [overdue]
    rfl
  exact congrArg Word.total (List.map_congr_left fun id _ =>
    through.count_eq_missing distinct printable fresh undecided atRest id)

/-! ## The time is up -/

theorem leftOpen_sublist (room : Nat) (unmet : List SignalId) :
    (r.leftOpen room unmet).Sublist unmet := by
  induction unmet generalizing room with
  | nil => exact .slnil
  | cons id rest ih =>
      unfold leftOpen
      split
      · cases room with
        | zero => exact (ih 0).cons_cons id
        | succ room => exact (ih room).cons id
      · exact (ih room).cons_cons id

/-- A look that takes note of everything leaves nothing open that is at zero. -/
theorem leftOpen_eq_nil {room : Nat} {unmet : List SignalId} (enough : unmet.length ≤ room)
    (atZero : ∀ id ∈ unmet, r.world.count id = 0) : r.leftOpen room unmet = [] := by
  induction unmet generalizing room with
  | nil => rfl
  | cons id rest ih =>
      unfold leftOpen
      rw [if_pos (atZero id List.mem_cons_self)]
      cases room with
      | zero => exact absurd enough (Nat.not_succ_le_zero _)
      | succ room =>
          exact ih (Nat.le_of_succ_le_succ enough) fun other member =>
            atZero other (List.mem_cons_of_mem id member)

/-- The runner waits for signals that workers carry. -/
theorem Reachable.unmet_sublist (reachable : Reachable plan broker r) {unmet : List SignalId}
    (stage : r.stage = .waiting unmet) :
    unmet.Sublist (Scenario.distinctSignals plan.scenario.workers) := by
  induction reachable generalizing unmet with
  | initial => cases stage
  | @step r r' s _ taken ih =>
      cases step_course taken with
      | turned _ turn =>
          cases turn with
          | publishedAll =>
              cases stage
              exact .refl _
          | metSome before =>
              cases stage
              exact (leftOpen_sublist _ _).trans (ih before)
          | _ => cases stage
      | ranOut | gaveUp => cases stage
      | aside same => exact ih (same.stage.symm.trans stage)

variable {earlier later : List (Moment σ)} {r₀ : Run σ}

/-- What is left on the signals when nothing has been counted since the time was up. -/
theorem Through.count_eq_of_calm (through : Through plan broker (earlier ++ ⟨r₀, .timeout⟩ :: later) r)
    (calm : ∀ x ∈ later, x.countedOn? = none) (id : SignalId) :
    r.world.count id = r₀.world.count id := by
  have same : countDowns (earlier ++ ⟨r₀, .timeout⟩ :: later) = countDowns earlier := by
    funext id
    have silent : later.countP (fun x => x.countedOn? == some id) = 0 :=
      List.countP_eq_zero.2 fun x member => by simp [calm x member]
    have timeout : (⟨r₀, .timeout⟩ : Moment σ).countedOn? = none := countedOn?_eq_none (by simp)
    unfold countDowns
    rw [List.countP_append, List.countP_cons, silent, timeout]
    rfl
  have after := through.barrier.2.signals
  rw [same, ← through.before.barrier.2.signals] at after
  unfold World.count
  rw [after]

/-- Unless there are more signals than the runner can take note of in one look, something is left
on one of them when the time is up. -/
theorem Through.exists_left (through : Through plan broker (earlier ++ ⟨r₀, .timeout⟩ :: later) r)
    (overdue : r.stage = .overdue)
    (few : (Scenario.distinctSignals plan.scenario.workers).length ≤ plan.lookLimit) :
    ∃ id ∈ Scenario.distinctSignals plan.scenario.workers, r₀.world.count id ≠ 0 := by
  obtain ⟨-, next, taken⟩ := through.moment
  -- The runner gives up waiting only after a look that has left something open.
  rcases timeoutStep_cases taken with ⟨unmet, stage, left, -⟩ | ⟨index, w, stage, -⟩
  · have carried := through.before.reachable.unmet_sublist stage
    by_contra! atZero
    exact left (leftOpen_eq_nil (carried.length_le.trans few)
      fun id member => atZero id (carried.subset member))
  · have decided := through.decided ⟨r₀, .timeout⟩ (by simp) (by rw [stage]; rfl)
    rw [overdue] at decided
    cases decided

/-! ## From there to the report -/

/-- What has been decided stands for the rest of the run. -/
theorem Through.stands_since (through : Through plan broker past r)
    (decided : r.stage.isDecided = true) {further : List (Moment σ)}
    (through' : Through plan broker (past ++ further) r') : Stands r r' := by
  refine through.onward (motive := Stands r) ⟨decided, rfl, rfl, rfl⟩ ?_ through'
  intro r₁ s r₂ stands taken
  have next := (step_course taken).stands stands.decided
  exact ⟨next.decided, next.outcome.trans stands.outcome,
    next.transitions.trans stands.transitions, next.startFailures.trans stands.startFailures⟩

/-- A runner that has broken down does nothing more. -/
theorem Through.crashed_since {text : String} (through : Through plan broker past r)
    (stage : r.stage = .crashed text) {further : List (Moment σ)}
    (through' : Through plan broker (past ++ further) r') : r'.stage = .crashed text := by
  refine through.onward (motive := fun r => r.stage = .crashed text) stage ?_ through'
  intro r₁ s r₂ stage taken
  cases step_course taken with
  | turned runner =>
      subst runner
      have taken : r₁.runnerStep plan = some r₂ := taken
      unfold runnerStep at taken
      rw [stage] at taken
      cases taken
  | ranOut _ other | gaveUp _ other => cases stage.symm.trans other
  | aside same => exact same.stage.trans stage

/-- A run that has turned to its teardown comes to a report. -/
theorem Through.exists_report_of_decided (through : Through plan broker past r)
    (decided : r.stage.isDecided = true) :
    ∃ further r' report, Through plan broker (past ++ further) r' ∧ r'.stage = .done report := by
  obtain ⟨further, r', through', finished⟩ := through.ends
  have stands := through.stands_since decided through'
  cases stage : r'.stage with
  | done report => exact ⟨further, r', report, through', stage⟩
  | crashed text =>
      have decided' := stands.decided
      rw [stage] at decided'
      cases decided'
  | _ =>
      rw [stage] at finished
      cases finished

theorem step_of_overdue (overdue : r.stage = .overdue) :
    r.step plan .runner = some (r.sumPending plan) := by
  show r.runnerStep plan = _
  unfold runnerStep
  rw [overdue]

/-- **The failure names what is missing.** Take a run of a scenario that has been built, with fresh
signals and with handlers of whose errors texts can be made. The time for waiting has run out; since
then no delivery has been counted, and nobody is in the middle of one. What the distinct signals
lack is what they expect without the deliveries on record to the workers that carry them, and unless
there are more signals than one look can take note of, they lack something.

If the sum over all of them is a word, the run fails with exactly this number, turns to its teardown,
and comes to a report, which has this failure as its outcome. If it is not, the runner breaks down
over the addition, and nothing is torn down. -/
theorem timeout_names_what_is_missing {d : Draft} (built : d.build = .ok plan.scenario)
    (fresh : ∀ signal ∈ plan.scenario.signals, signal.count = signal.expected)
    (printable : ∀ w ∈ plan.scenario.workers, w.Printable)
    (through : Through plan broker (earlier ++ ⟨r₀, .timeout⟩ :: later) r)
    (overdue : r.stage = .overdue) (calm : ∀ x ∈ later, x.countedOn? = none)
    (atRest : ∀ w ∈ r.workers, ∀ id, w.owes id = false) :
    let signals := Scenario.distinctSignals plan.scenario.workers
    let missing := Word.total (signals.map (plan.scenario.missing r.world.journal.snapshot))
    let failure := Failure.waitTimeout missing plan.settings.waitTimeout
    signals.Nodup ∧ (∀ id, id ∈ signals ↔ ∃ w ∈ plan.scenario.workers, w.signal = some id) ∧
      (signals.length ≤ plan.lookLimit → 0 < missing) ∧
      (missing < Word.limit →
        r.step plan .runner = some (r.tearDown (.error failure)) ∧
        (∃ further r' report,
          Through plan broker (earlier ++ ⟨r₀, .timeout⟩ :: later ++ ⟨r, .runner⟩ :: further) r' ∧
            r'.stage = .done report) ∧
        ∀ further r' report,
          Through plan broker (earlier ++ ⟨r₀, .timeout⟩ :: later ++ ⟨r, .runner⟩ :: further) r' →
          r'.stage = .done report → report.outcome = .error failure ∧
            report.transitions = r.transitions ++ [.tornDown]) ∧
      (Word.limit ≤ missing →
        r.step plan .runner = some { r with stage := .crashed "attempt to add with overflow" }) := by
  intro signals missing failure
  have distinct : (plan.scenario.workers.map WorkerSpec.name).Nodup := by
    obtain ⟨-, -, names⟩ := Draft.build_keeps built
    rw [names]
    exact (Draft.build_eq_ok built).2.1
  have sum := through.total_eq_missing distinct printable fresh overdue atRest
    (Scenario.distinctSignals plan.scenario.workers)
  refine ⟨Scenario.nodup_distinctSignals _, fun _ => Scenario.mem_distinctSignals, ?_, ?_, ?_⟩
  · intro few
    obtain ⟨id, carried, left⟩ := through.exists_left overdue few
    rw [← through.count_eq_of_calm calm] at left
    apply Nat.pos_of_ne_zero
    intro nothing
    exact left (List.sum_eq_zero_iff.1 (sum.trans nothing) _ (List.mem_map_of_mem carried))
  · intro word
    have taken : r.step plan .runner = some (r.tearDown (.error failure)) := by
      rw [step_of_overdue overdue, sumPending, sum, if_pos word]
    have torn := through.step .runner taken
    refine ⟨taken, ?_, ?_⟩
    · obtain ⟨further, r', report, through', stage⟩ := torn.exists_report_of_decided rfl
      rw [List.append_assoc] at through'
      exact ⟨further, r', report, through', stage⟩
    · intro further r' report through' stage
      rw [List.append_cons] at through'
      have stands := torn.stands_since rfl through'
      have filed := through'.reachable.filed stage
      exact ⟨filed.outcome.trans stands.outcome, filed.transitions.trans stands.transitions⟩
  · intro tooMany
    rw [step_of_overdue overdue, sumPending, sum, if_neg (Nat.not_lt.2 tooMany)]

/-! ## Two runs -/

/-- Whether the time for waiting has run out on a run. -/
def isOverdue (r : Run σ) : Bool :=
  r.stage matches .overdue

theorem stage_of_isOverdue (late : r.isOverdue = true) : r.stage = .overdue := by
  unfold isOverdue at late
  split at late
  · assumption
  · cases late

/-- Nobody is in the middle of a delivery. -/
def isAtRest (r : Run σ) : Bool :=
  r.workers.all fun w => w.uncounted.isEmpty

theorem owes_of_isAtRest (atRest : r.isAtRest = true) :
    ∀ w ∈ r.workers, ∀ id, w.owes id = false := by
  intro w member id
  have counted := List.all_eq_true.1 atRest w member
  unfold Worker.uncounted at counted
  unfold Worker.owes
  cases loop : w.loop with
  | none => simp
  | some l =>
      rw [loop] at counted
      cases phase : l.phase with
      | observed | recorded => simp [Loop.uncounted, phase] at counted
      | idle | handling | ended => simp [phase]

/-- Without a handler there are no errors but those of payloads. -/
theorem printable_of_unhandled {spec : WorkerSpec} (unhandled : spec.handler = none) :
    spec.Printable := by
  intro earlier m text
  unfold WorkerSpec.react
  rw [unhandled]
  split <;> simp

/-- One message for a worker that waits for two. -/
def halfDraft : Draft where
  name := "half"
  topic := some "orders"
  subscription := some "audit"
  workers := [{ name := "a", signal := some 0 }]
  messages := [⟨.ofNat 0, "note", none⟩]
  signals := [.fresh 2]

def halfPlan : Plan Broker :=
  Broker.plan (halfDraft.assemble ⟨⟨"orders", "audit"⟩, .shared⟩) {}

/-- The message is delivered and counted, and the other one is what the failure names. -/
theorem timeout_names_one_of_two :
    halfDraft.build = .ok halfPlan.scenario ∧
      (∀ signal ∈ halfPlan.scenario.signals, signal.count = signal.expected) ∧
      (∀ w ∈ halfPlan.scenario.workers, w.Printable) ∧
      ∃ earlier r₀ r, Through halfPlan {} (earlier ++ [⟨r₀, .timeout⟩]) r ∧ r.stage = .overdue ∧
        (∀ w ∈ r.workers, ∀ id, w.owes id = false) ∧
        ∃ past r' report, Through halfPlan {} past r' ∧ r'.stage = .done report ∧
          report.outcome = .error (.waitTimeout 1 (.ofSecs 10)) := by
  have built : halfDraft.build = .ok halfPlan.scenario := rfl
  have fresh : ∀ signal ∈ halfPlan.scenario.signals, signal.count = signal.expected := by decide
  have printable : ∀ w ∈ halfPlan.scenario.workers, w.Printable := by
    intro w member
    obtain rfl := List.mem_singleton.1 member
    exact printable_of_unhandled rfl
  have come : ((initial halfPlan {}).steps halfPlan
      (List.replicate 5 .runner ++ List.replicate 4 (.worker 0))).any (fun r₀ =>
      (r₀.step halfPlan .timeout).any fun r => r.isOverdue && r.isAtRest &&
        Word.total ((Scenario.distinctSignals halfPlan.scenario.workers).map
          (halfPlan.scenario.missing r.world.journal.snapshot)) == 1) = true := by
    decide +kernel
  obtain ⟨r₀, run, next⟩ := (Option.any_eq_true _ _).1 come
  obtain ⟨r, taken, facts⟩ := (Option.any_eq_true _ _).1 next
  simp only [Bool.and_eq_true, beq_iff_eq] at facts
  obtain ⟨⟨late, atRest⟩, one⟩ := facts
  obtain ⟨earlier, through₀⟩ := Through.initial.steps run
  have through := through₀.step .timeout taken
  have overdue := stage_of_isOverdue late
  have owesNothing := owes_of_isAtRest atRest
  have calm : ∀ x ∈ ([] : List (Moment Broker)), x.countedOn? = none := by simp
  obtain ⟨-, -, -, fits, -⟩ :=
    timeout_names_what_is_missing built fresh printable through overdue calm owesNothing
  rw [one] at fits
  obtain ⟨-, ⟨further, r', report, through', stage⟩, reports⟩ := fits (by decide)
  exact ⟨built, fresh, printable, earlier, r₀, r, through, overdue, owesNothing, _, r', report,
    through', stage, (reports further r' report through' stage).1⟩

/-- Two signals that together wait for one delivery more than a word can hold. -/
def vastDraft : Draft where
  name := "vast"
  topic := some "orders"
  subscription := some "audit"
  workers := [{ name := "a", signal := some 0 }, { name := "b", signal := some 1 }]
  signals := [.fresh 18446744073709551615, .fresh 1]

def vastPlan : Plan Broker :=
  Broker.plan (vastDraft.assemble ⟨⟨"orders", "audit"⟩, .shared⟩) {}

/-- When the time is up, the runner breaks down over the sum. The workers go on running, the client
stays open, and there is never a report. -/
theorem run_ends_without_teardown :
    vastDraft.build = .ok vastPlan.scenario ∧
      (∀ signal ∈ vastPlan.scenario.signals, signal.count = signal.expected) ∧
      (∀ w ∈ vastPlan.scenario.workers, w.Printable) ∧
      ∃ earlier r₀ r r', Through vastPlan {} (earlier ++ [⟨r₀, .timeout⟩]) r ∧
        r.stage = .overdue ∧ (∀ w ∈ r.workers, ∀ id, w.owes id = false) ∧
        Word.total ((Scenario.distinctSignals vastPlan.scenario.workers).map
          (vastPlan.scenario.missing r.world.journal.snapshot)) = Word.limit ∧
        r.step vastPlan .runner = some r' ∧
        r'.stage = .crashed "attempt to add with overflow" ∧
        (∀ w ∈ r'.workers, w.state = .running) ∧ r'.world.broker.isClosed = false ∧
        ∀ further r'' report,
          Through vastPlan {} (earlier ++ [⟨r₀, .timeout⟩] ++ ⟨r, .runner⟩ :: further) r'' →
            r''.stage ≠ .done report := by
  have built : vastDraft.build = .ok vastPlan.scenario := rfl
  have fresh : ∀ signal ∈ vastPlan.scenario.signals, signal.count = signal.expected := by decide
  have printable : ∀ w ∈ vastPlan.scenario.workers, w.Printable := by
    intro w member
    rcases List.mem_pair.1 member with rfl | rfl
    · exact printable_of_unhandled rfl
    · exact printable_of_unhandled rfl
  have come : ((initial vastPlan {}).steps vastPlan (List.replicate 5 .runner)).any (fun r₀ =>
      (r₀.step vastPlan .timeout).any fun r => r.isOverdue && r.isAtRest &&
        Word.total ((Scenario.distinctSignals vastPlan.scenario.workers).map
          (vastPlan.scenario.missing r.world.journal.snapshot)) == Word.limit &&
        r.workers.all (fun w => w.state == .running) && !r.world.broker.isClosed) = true := by
    decide +kernel
  obtain ⟨r₀, run, next⟩ := (Option.any_eq_true _ _).1 come
  obtain ⟨r, taken, facts⟩ := (Option.any_eq_true _ _).1 next
  simp only [Bool.and_eq_true, Bool.not_eq_true', beq_iff_eq, List.all_eq_true] at facts
  obtain ⟨⟨⟨⟨late, atRest⟩, tooMany⟩, running⟩, isOpen⟩ := facts
  obtain ⟨earlier, through₀⟩ := Through.initial.steps run
  have through := through₀.step .timeout taken
  have overdue := stage_of_isOverdue late
  have owesNothing := owes_of_isAtRest atRest
  have distinct : (vastPlan.scenario.workers.map WorkerSpec.name).Nodup := by decide
  have sum := (through.total_eq_missing distinct printable fresh overdue owesNothing _).trans tooMany
  have broken : r.step vastPlan .runner =
      some { r with stage := .crashed "attempt to add with overflow" } := by
    rw [step_of_overdue overdue, sumPending, sum, if_neg (Nat.lt_irrefl _)]
  refine ⟨built, fresh, printable, earlier, r₀, r, _, through, overdue, owesNothing, tooMany,
    broken, rfl, running, isOpen, ?_⟩
  intro further r'' report through'' stage
  rw [List.append_cons] at through''
  have crashed := (through.step .runner broken).crashed_since rfl through''
  cases stage.symm.trans crashed

end Run

end DeliveryBench
