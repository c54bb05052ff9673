import DeliveryBench.Proofs.Journal.Ledger
import DeliveryBench.Proofs.Places
import DeliveryBench.Proofs.Run.Moves
import DeliveryBench.Run.History

/-!
# The wait for the signals

A worker first records a delivery and then counts it on its signal, so that no signal is ever ahead
of the journal (`Barrier.covered`): what has been counted on it, and what its workers still owe it,
are covered by deliveries that have been recorded. The runner goes on to verify the deliveries only
once every signal is at zero (`Reachable.met_eq_zero`), and by then the journal holds as many
deliveries as were waited for (`Reachable.deliveries_of_verifying`).
-/

namespace DeliveryBench

variable {σ : Type}

/-- Whether a worker has recorded a delivery that it has not counted on the signal yet. -/
def Worker.owes (id : SignalId) (w : Worker) : Bool :=
  w.spec.signal == some id &&
    match w.loop with
    | none => false
    | some l =>
      match l.phase with
      | .observed .. | .recorded _ => true
      | _ => false

/-- The names of the workers that carry a signal. -/
def Scenario.carriers (s : Scenario) (id : SignalId) : List String :=
  (s.workers.filter fun w => w.signal == some id).map WorkerSpec.name

/-- How many deliveries to some workers have been recorded. -/
def Journal.deliveredTo (j : Journal) (names : List String) : Nat :=
  (Shards.all j.observed).countP fun o => names.contains o.worker

/-- The signals that the runner need not look at any more. -/
def Stage.met (signals : List SignalId) : Stage → List SignalId
  | .waiting unmet => signals.filter fun id => !unmet.contains id
  | .verifying | .judging => signals
  | _ => []

namespace Run

variable {plan : Plan σ} {broker : σ} {past : List (Moment σ)} {r r' : Run σ} {s : Step}

/-! ## Who is on the roster -/

/-- The workers are those of the scenario, in its order, and their loops know their orders. -/
structure Roster (plan : Plan σ) (r : Run σ) : Prop where
  specs : r.workers.map Worker.spec ++ r.stage.unstarted = plan.scenario.workers
  loops : ∀ w ∈ r.workers, ∀ l, w.loop = some l → l.spec = w.spec

/-- A worker that is started keeps its orders, and its loop, if there is one, is idle. -/
theorem startWorker_workers (plan : Plan σ) (r : Run σ) (spec : WorkerSpec)
    (rest : List WorkerSpec) :
    ∃ w, (r.startWorker plan spec rest).workers = r.workers ++ [w] ∧ w.spec = spec ∧
      ∀ l, w.loop = some l → l.spec = w.spec ∧ l.phase = .idle := by
  generalize answer : plan.client.subscribe plan.scenario.target r.world.broker = result
  obtain ⟨join, broker⟩ := result
  cases join with
  | ok ticket =>
      rw [startWorker_of_ok spec rest answer]
      refine ⟨_, rfl, rfl, ?_⟩
      intro l there
      cases there
      exact ⟨rfl, rfl⟩
  | error e =>
      rw [startWorker_of_error spec rest answer]
      refine ⟨_, rfl, rfl, ?_⟩
      intro l there
      cases there

theorem roster_initial (plan : Plan σ) (broker : σ) : Roster plan (initial plan broker) where
  specs := rfl
  loops := fun _ member => nomatch member

theorem Roster.step (roster : Roster plan r) (change : Change plan r s r') : Roster plan r' := by
  cases change with
  | @moved index w l l' world there loop move =>
      refine ⟨?_, ?_⟩
      · show (r.workers.set index _).map Worker.spec ++ r.stage.unstarted = _
        rw [map_set_of_same (b := { w with loop := some l' }) there rfl]
        exact roster.specs
      · intro w' member l'' there'
        rcases List.mem_or_eq_of_mem_set member with old | rfl
        · exact roster.loops w' old l'' there'
        · cases there'
          exact move.same.1.trans (roster.loops w (List.mem_of_getElem? there) l loop)
  | @started spec rest stage =>
      obtain ⟨w, workers, same, idle⟩ := startWorker_workers plan r spec rest
      refine ⟨?_, ?_⟩
      · have specs := roster.specs
        rw [stage] at specs
        rw [workers, List.map_append, List.map_singleton, same, List.append_assoc]
        exact specs
      · rw [workers]
        intro w' member l there
        rcases List.mem_append.1 member with old | new
        · exact roster.loops w' old l there
        · obtain rfl : w' = w := List.mem_singleton.1 new
          exact (idle l there).1
  | @woundDown index w w' _ there calm workers _ _ unstarted =>
      refine ⟨?_, ?_⟩
      · rw [workers, unstarted, map_set_of_same there calm.spec]
        exact roster.specs
      · rw [workers]
        intro w'' member l' there'
        rcases List.mem_or_eq_of_mem_set member with old | rfl
        · exact roster.loops w'' old l' there'
        · obtain ⟨l, loop, spec, -⟩ := calm.loop l' there'
          rw [spec, calm.spec]
          exact roster.loops w (List.mem_of_getElem? there) l loop
  | elsewhere workers _ _ unstarted =>
      refine ⟨?_, ?_⟩
      · rw [workers, unstarted]
        exact roster.specs
      · rw [workers]
        exact roster.loops

theorem Roster.spec_mem (roster : Roster plan r) {w : Worker} (member : w ∈ r.workers) :
    w.spec ∈ plan.scenario.workers := by
  rw [← roster.specs]
  exact List.mem_append_left _ (List.mem_map_of_mem member)

/-- Every worker has the orders that the scenario has at its place. -/
theorem Roster.spec_at (roster : Roster plan r) {index : Nat} {w : Worker}
    (there : r.workers[index]? = some w) : plan.scenario.workers[index]? = some w.spec := by
  have inside := (List.getElem?_eq_some_iff.1 there).1
  rw [← roster.specs, List.getElem?_append_left (by rwa [List.length_map]), List.getElem?_map,
    there, Option.map_some]

/-- Once all workers have been started, there are as many as the scenario has. -/
theorem Roster.length_eq (roster : Roster plan r) (started : r.stage.unstarted = []) :
    r.workers.length = plan.scenario.workers.length := by
  rw [← roster.specs, started, List.append_nil, List.length_map]

/-! ## Signals and journal -/

/-- So much has been counted on each signal, and the journal covers it. -/
structure Barrier (plan : Plan σ) (r : Run σ) (counted : SignalId → Nat) : Prop where
  signals : r.world.signals = plan.scenario.signals.mapIdx fun id s =>
    { s with count := s.count - counted id }
  covered : ∀ id, counted id + r.workers.countP (Worker.owes id) ≤
    r.world.journal.deliveredTo (plan.scenario.carriers id)

theorem barrier_initial (plan : Plan σ) (broker : σ) :
    Barrier plan (initial plan broker) fun _ => 0 where
  signals := by
    apply List.ext_getElem?
    intro i
    rw [List.getElem?_mapIdx]
    show plan.scenario.signals[i]? = _
    cases plan.scenario.signals[i]? <;> rfl
  covered := fun _ => Nat.zero_le _

theorem deliveredTo_record (j : Journal) (worker : String) (m : Message) (names : List String) :
    (j.record worker m).2.deliveredTo names =
      j.deliveredTo names + if names.contains worker then 1 else 0 := by
  unfold Journal.deliveredTo
  show (Shards.all (Shards.append j.observed worker _)).countP _ = _
  rw [(Shards.append_perm j.observed worker _).countP_eq, List.countP_append,
    List.countP_singleton]

/-- Counting on a signal adds to what has been counted on it. -/
theorem signals_countDown {w : World σ} {signals : List Signal} {counted : SignalId → Nat}
    (current : w.signals = signals.mapIdx fun id s => { s with count := s.count - counted id })
    (carried : Option SignalId) :
    (w.countDown carried).signals = signals.mapIdx fun id s =>
      { s with count := s.count - (counted id + if carried = some id then 1 else 0) } := by
  unfold World.countDown
  cases carried with
  | none => simpa using current
  | some id =>
      dsimp only
      rw [current]
      apply List.ext_getElem?
      intro i
      simp only [List.getElem?_modify, List.getElem?_mapIdx, Option.some.injEq]
      by_cases here : id = i
      · subst here
        cases signals[id]? with
        | none => rfl
        | some s => simp [Signal.countDown, Nat.sub_sub]
      · cases signals[i]? <;> simp [here]

/-- So much has been counted on each signal after a step, if it was so much before. -/
def countedAfter (counted : SignalId → Nat) (x : Moment σ) (id : SignalId) : Nat :=
  counted id + if x.countedOn? = some id then 1 else 0

theorem countedAfter_of_none {counted : SignalId → Nat} {x : Moment σ}
    (none : x.countedOn? = none) : countedAfter counted x = counted := by
  funext id
  simp [countedAfter, none]

theorem loop?_worker {index : Nat} {w : Worker} {l : Loop} (there : r.workers[index]? = some w)
    (loop : w.loop = some l) : (⟨r, .worker index⟩ : Moment σ).loop? = some l := by
  show r.workers[index]?.bind Worker.loop = some l
  rw [there]
  exact loop

theorem countedOn?_eq_none (other : ∀ index, s ≠ .worker index) :
    (⟨r, s⟩ : Moment σ).countedOn? = none := by
  cases s with
  | worker index => exact absurd rfl (other index)
  | runner | timeout | gate | broker => rfl

/-- What a worker owes after a step it has either owed before or recorded in that step, and what it
owes no longer it has counted, unless its loop has broken down. -/
theorem Barrier.move {counted : SignalId → Nat} (barrier : Barrier plan r counted) {index : Nat}
    {w : Worker} {l l' : Loop} {world : World σ} (there : r.workers[index]? = some w)
    (loop : w.loop = some l) (orders : l.spec = w.spec) (known : w.spec ∈ plan.scenario.workers)
    (move : Loop.Move plan.client l r.world l' world) :
    Barrier plan { r.setWorker index { w with loop := some l' } with world := world }
      (countedAfter counted ⟨r, .worker index⟩) := by
  have owed (id : SignalId) := countP_set_add (Worker.owes id) { w with loop := some l' } there
  have mover := loop?_worker there loop
  -- A step that counts nothing, and records nothing that covers more than it makes the worker owe.
  have still (signals : world.signals = r.world.signals)
      (nothing : (⟨r, .worker index⟩ : Moment σ).countedOn? = none)
      (covers : ∀ id, (if Worker.owes id { w with loop := some l' } then 1 else 0) +
        r.world.journal.deliveredTo (plan.scenario.carriers id) ≤
          (if Worker.owes id w then 1 else 0) +
            world.journal.deliveredTo (plan.scenario.carriers id)) :
      Barrier plan { r.setWorker index { w with loop := some l' } with world := world }
        (countedAfter counted ⟨r, .worker index⟩) := by
    rw [countedAfter_of_none nothing]
    refine ⟨signals.trans barrier.signals, ?_⟩
    intro id
    have before := barrier.covered id
    have after := covers id
    have change := owed id
    show counted id + (r.workers.set index _).countP (Worker.owes id) ≤
      world.journal.deliveredTo (plan.scenario.carriers id)
    omega
  have uncounted {phase : Phase} (here : l.phase = phase) (other : ∀ m, phase ≠ .recorded m) :
      (⟨r, .worker index⟩ : Moment σ).countedOn? = none := by
    unfold Moment.countedOn?
    rw [mover]
    dsimp only
    split
    · rename_i m recorded
      exact absurd (here.symm.trans recorded) (other m)
    · rfl
  have counts {m : Message} (phase : l.phase = .recorded m) :
      (⟨r, .worker index⟩ : Moment σ).countedOn? = w.spec.signal := by
    simp [Moment.countedOn?, mover, phase, orders]
  cases move with
  | stopped phase =>
      exact still rfl (uncounted phase nofun) fun id => by
        simp [Worker.owes, loop, phase]
  | took phase =>
      exact still rfl (uncounted phase nofun) fun id => by
        simp [Worker.owes, loop, phase, Loop.take, World.withBroker]
  | deserted phase =>
      exact still rfl (uncounted phase nofun) fun id => by
        simp [Worker.owes, loop, phase, World.withBroker]
  | broke phase =>
      exact still rfl (uncounted phase nofun) fun id => by
        simp [Worker.owes, loop, phase, World.withBroker]
  | @observed m reaction phase =>
      apply still rfl (uncounted phase nofun)
      intro id
      rw [deliveredTo_record, orders]
      by_cases carries : w.spec.signal = some id
      · have carrier : (plan.scenario.carriers id).contains w.spec.name = true := by
          rw [List.contains_iff_mem]
          exact List.mem_map_of_mem (List.mem_filter.2 ⟨known, by simp [carries]⟩)
        rw [carrier]
        simp [Worker.owes, loop, phase, carries]
        omega
      · simp [Worker.owes, carries]
  | collapsed phase =>
      exact still rfl (uncounted phase nofun) fun id => by
        simp [Worker.owes, loop, phase]
  | passed phase =>
      exact still rfl (uncounted phase nofun) fun id => by
        simp [Worker.owes, loop, phase]
  | failed phase =>
      apply still rfl (uncounted phase nofun)
      intro id
      simp [Worker.owes, loop, phase, Journal.deliveredTo, Journal.recordFailure]
  | @counted m phase =>
      have after : countedAfter counted ⟨r, .worker index⟩ =
          fun id => counted id + if w.spec.signal = some id then 1 else 0 := by
        funext id
        rw [countedAfter, counts phase]
      rw [after]
      refine ⟨?_, ?_⟩
      · show (r.world.countDown l.spec.signal).signals = _
        rw [orders]
        exact signals_countDown barrier.signals _
      · intro id
        have before := barrier.covered id
        have change := owed id
        show _ + (r.workers.set index _).countP (Worker.owes id) ≤
          (r.world.countDown l.spec.signal).journal.deliveredTo _
        rw [World.countDown_journal]
        have paid : Worker.owes id { w with loop := some { l with phase := .idle } } = false := by
          simp [Worker.owes]
        have owing : Worker.owes id w = (w.spec.signal == some id) := by
          simp [Worker.owes, loop, phase]
        rw [paid, owing] at change
        simp only [beq_iff_eq, Bool.false_eq_true, if_false] at change
        omega

/-- Winding down a worker makes it owe nothing new. -/
theorem WindsDown.owes {w w' : Worker} (calm : WindsDown w w') {id : SignalId}
    (owes : w'.owes id = true) : w.owes id = true := by
  unfold Worker.owes at owes ⊢
  rw [calm.spec] at owes
  cases there : w'.loop with
  | none => simp [there] at owes
  | some l' =>
      obtain ⟨l, loop, -, same | ⟨ending, ended⟩⟩ := calm.loop l' there
      · simpa [there, loop, same] using owes
      · simp [there, ended] at owes

theorem Barrier.step {counted : SignalId → Nat} (barrier : Barrier plan r counted)
    (roster : Roster plan r) (change : Change plan r s r') :
    Barrier plan r' (countedAfter counted ⟨r, s⟩) := by
  cases change with
  | moved there loop move =>
      have member := List.mem_of_getElem? there
      exact barrier.move there loop (roster.loops _ member _ loop) (roster.spec_mem member) move
  | @started spec rest stage =>
      rw [countedAfter_of_none (countedOn?_eq_none (s := .runner) nofun)]
      obtain ⟨w, workers, -, idle⟩ := startWorker_workers plan r spec rest
      refine ⟨barrier.signals, ?_⟩
      intro id
      have nothing : w.owes id = false := by
        unfold Worker.owes
        cases there : w.loop with
        | none => simp
        | some l => simp [(idle l there).2]
      rw [workers, List.countP_append, List.countP_singleton, nothing]
      exact barrier.covered id
  | @woundDown index w w' _ there calm workers journal signals _ =>
      rw [countedAfter_of_none (countedOn?_eq_none (s := .runner) nofun)]
      refine ⟨signals.trans barrier.signals, ?_⟩
      intro id
      have before := barrier.covered id
      have change := countP_set_add (Worker.owes id) w' there
      have less : (if w'.owes id = true then 1 else 0) ≤ if w.owes id = true then 1 else 0 := by
        split
        · rename_i owes
          exact Nat.le_of_eq (if_pos (calm.owes owes)).symm
        · exact Nat.zero_le _
      rw [workers, journal]
      omega
  | elsewhere workers journal signals _ other =>
      rw [countedAfter_of_none (countedOn?_eq_none other)]
      refine ⟨signals.trans barrier.signals, ?_⟩
      rw [workers, journal]
      exact barrier.covered

theorem countDowns_snoc (past : List (Moment σ)) (x : Moment σ) :
    countDowns (past ++ [x]) = countedAfter (countDowns past) x := by
  funext id
  simp [countDowns, countedAfter, List.countP_append, List.countP_singleton]

/-- In every state of a run, the journal covers what has been counted. -/
theorem Through.barrier (through : Through plan broker past r) :
    Roster plan r ∧ Barrier plan r (countDowns past) := by
  induction through with
  | initial => exact ⟨roster_initial plan broker, barrier_initial plan broker⟩
  | step s _ taken ih =>
      obtain ⟨roster, barrier⟩ := ih
      have change := step_change taken
      rw [countDowns_snoc]
      exact ⟨roster.step change, barrier.step roster change⟩

theorem Reachable.roster (reachable : Reachable plan broker r) : Roster plan r := by
  obtain ⟨past, through⟩ := reachable.through
  exact through.barrier.1

/-! ## Signals at zero -/

theorem mem_leftOpen (room : Nat) {id : SignalId} {unmet : List SignalId} (member : id ∈ unmet)
    (counts : r.world.count id ≠ 0) : id ∈ r.leftOpen room unmet := by
  induction unmet generalizing room with
  | nil => cases member
  | cons first rest ih =>
      unfold leftOpen
      rcases List.mem_cons.1 member with rfl | later
      · rw [if_neg counts]
        exact List.mem_cons_self
      · split
        · cases room with
          | zero => exact List.mem_cons_of_mem _ (ih 0 later)
          | succ room => exact ih room later
        · exact List.mem_cons_of_mem _ (ih room later)

/-- The runner takes no signal for met that is not at zero. -/
theorem Turn.met (turn : Turn plan r r') {id : SignalId}
    (met : id ∈ r'.stage.met (Scenario.distinctSignals plan.scenario.workers)) :
    id ∈ r.stage.met (Scenario.distinctSignals plan.scenario.workers) ∨ r.world.count id = 0 := by
  cases turn with
  | publishedAll => simp [enter, Stage.met] at met
  | @metAll unmet stage empty =>
      by_cases atZero : r.world.count id = 0
      · exact .inr atZero
      · left
        have seen : id ∉ unmet := by
          intro member
          have left := mem_leftOpen plan.lookLimit member atZero
          rw [empty] at left
          cases left
        rw [stage]
        exact List.mem_filter.2 ⟨met, by simp [seen]⟩
  | @metSome unmet stage =>
      by_cases atZero : r.world.count id = 0
      · exact .inr atZero
      · left
        rcases List.mem_filter.1 met with ⟨carried, gone⟩
        have seen : id ∉ unmet := by
          intro member
          have left := mem_leftOpen plan.lookLimit member atZero
          simp [left] at gone
        rw [stage]
        exact List.mem_filter.2 ⟨carried, by simp [seen]⟩
  | verified stage =>
      rw [stage]
      exact .inl met
  | startedOne | startFailed | startedAll | settled | published | publishRefused | publishNoted
  | publishFailed | timedOut | overflowed | violated | judged | stoppedAll | marked | asked | ended
  | endedLate | aborted | closed | reported => cases met

/-- A signal at zero stays there. -/
theorem Change.count_eq_zero (change : Change plan r s r') {id : SignalId}
    (atZero : r.world.count id = 0) : r'.world.count id = 0 := by
  have same (signals : r'.world.signals = r.world.signals) : r'.world.count id = 0 := by
    unfold World.count
    rw [signals]
    exact atZero
  cases change with
  | moved there loop move =>
      cases move with
      | counted =>
          show (r.world.countDown _).count id = 0
          unfold World.countDown
          split
          · exact atZero
          · unfold World.count at atZero ⊢
            rw [List.getElem?_modify]
            cases there : r.world.signals[id]? with
            | none => rfl
            | some signal =>
                rw [there] at atZero
                have zero : signal.count = 0 := atZero
                dsimp only [Option.map_eq_map, Option.map_some]
                split
                · rw [Signal.count_countDown, zero]
                · exact zero
      | stopped | took | deserted | broke | observed | collapsed | passed | failed =>
          exact same rfl
  | started => exact same rfl
  | woundDown _ _ _ _ signals => exact same signals
  | elsewhere _ _ signals => exact same signals

/-- Whatever the runner takes for met is at zero. -/
theorem Reachable.met_eq_zero (reachable : Reachable plan broker r) :
    ∀ id ∈ r.stage.met (Scenario.distinctSignals plan.scenario.workers), r.world.count id = 0 := by
  induction reachable with
  | initial => exact fun _ member => nomatch member
  | @step r r' s _ taken ih =>
      intro id met
      apply (step_change taken).count_eq_zero
      cases step_course taken with
      | turned _ turn =>
          rcases turn.met met with before | atZero
          · exact ih id before
          · exact atZero
      | ranOut | gaveUp => cases met
      | aside same =>
          rw [same.stage] at met
          exact ih id met

theorem Barrier.count_eq {counted : SignalId → Nat} (barrier : Barrier plan r counted)
    {id : SignalId} {signal : Signal} (there : plan.scenario.signals[id]? = some signal) :
    r.world.count id = signal.count - counted id := by
  unfold World.count
  rw [barrier.signals, List.getElem?_mapIdx, there]
  rfl

/-- When the runner verifies the deliveries, every signal is at zero, and as many deliveries to the
workers that carry it have been recorded as it waited for. -/
theorem Reachable.deliveries_of_verifying (reachable : Reachable plan broker r)
    (stage : r.stage = .verifying) {id : SignalId} {signal : Signal}
    (carried : id ∈ Scenario.distinctSignals plan.scenario.workers)
    (there : plan.scenario.signals[id]? = some signal) :
    signal.count ≤ r.world.journal.deliveredTo (plan.scenario.carriers id) := by
  obtain ⟨past, through⟩ := reachable.through
  obtain ⟨-, barrier⟩ := through.barrier
  have atZero : r.world.count id = 0 := by
    apply reachable.met_eq_zero
    rw [stage]
    exact carried
  rw [barrier.count_eq there] at atZero
  have covered := barrier.covered id
  omega

end Run

end DeliveryBench
