import DeliveryBench.Proofs.Run.Completion
import DeliveryBench.Proofs.Worker.Bookkeeping

/-!
# The lives of the workers of a run

To one worker of a run, the runner is who calls its handle, and all others are at work elsewhere. So
every worker lives one of the lives of `Worker.Lives`, from before it is started, and what it puts on
record there is what it puts on record in the run (`Run.Through.lives`). What holds of a worker
whatever happens to it holds of the workers of every run; of what they have on record this is spelt
out (`Run.Through.blamed`).

Caveat: what others put on record must not go under the worker's name, so the names are distinct.
-/

namespace DeliveryBench

variable {σ : Type}

/-- To the other workers, what a loop makes of the world is done elsewhere. -/
theorem Loop.Move.exists_doing {client : Client σ} {l l' : Loop} {world world' : World σ}
    (move : Loop.Move client l world l' world') :
    ∃ doing : Elsewhere σ, doing.apply world = world' ∧
      ∀ name, doing.recorder? = some name → name = l.spec.name := by
  cases move with
  | stopped | collapsed | passed => exact ⟨.dealt world.broker, rfl, nofun⟩
  | @took _ broker | @deserted broker | @broke _ broker => exact ⟨.dealt broker, rfl, nofun⟩
  | @observed m =>
      refine ⟨.recorded l.spec.name m, rfl, ?_⟩
      rintro name ⟨⟩
      rfl
  | @failed m sequence _ reason =>
      refine ⟨.failed l.spec.name m sequence reason, rfl, ?_⟩
      rintro name ⟨⟩
      rfl
  | counted =>
      cases l.spec.signal with
      | none => exact ⟨.dealt world.broker, rfl, nofun⟩
      | some id => exact ⟨.counted id, rfl, nofun⟩

namespace Run

variable {plan : Plan σ} {broker : σ} {past : List (Moment σ)} {r r' : Run σ} {s : Step}
  {spec : WorkerSpec} {place : Nat} {results : List (Except BrokerError Ticket)}

/-- A worker that is still to be started. -/
def unstarted (plan : Plan σ) (spec : WorkerSpec) : Worker where
  spec := spec
  stopTimeout := plan.settings.stopTimeout

/-- The worker at a place, whether it has been started or not. -/
def workerAt (plan : Plan σ) (spec : WorkerSpec) (place : Nat) (r : Run σ) : Worker :=
  (r.workers[place]?).getD (unstarted plan spec)

theorem workerAt_of_some {w : Worker} (there : r.workers[place]? = some w) :
    r.workerAt plan spec place = w := by
  rw [workerAt, there, Option.getD_some]

theorem workerAt_of_none (none : r.workers[place]? = none) :
    r.workerAt plan spec place = unstarted plan spec := by
  rw [workerAt, none, Option.getD_none]

theorem workerAt_congr (same : r'.workers[place]? = r.workers[place]?) :
    r'.workerAt plan spec place = r.workerAt plan spec place := by
  rw [workerAt, same, workerAt]

theorem Roster.workerAt_spec (roster : Roster plan r)
    (there : plan.scenario.workers[place]? = some spec) :
    (r.workerAt plan spec place).spec = spec := by
  cases started : r.workers[place]? with
  | none => rw [workerAt_of_none started, unstarted]
  | some w =>
      rw [workerAt_of_some started]
      exact Option.some.inj ((roster.spec_at started).symm.trans there)

/-- The next worker to be started has the orders that the scenario has at its place. -/
theorem Roster.spec_of_next (roster : Roster plan r) {next : WorkerSpec} {rest : List WorkerSpec}
    (stage : r.stage = .starting (next :: rest)) :
    plan.scenario.workers[r.workers.length]? = some next := by
  rw [← roster.specs, stage]
  simp [Stage.unstarted]

/-! ## One step -/

/-- To the worker at a place something happens between two states, by which it puts so much on
record. -/
def LivesOn (plan : Plan σ) (spec : WorkerSpec) (place : Nat) (r r' : Run σ)
    (recorded : List Recording) : Prop :=
  ∃ lived, Worker.Lives plan.client (r.workerAt plan spec place) r.world lived
    (r'.workerAt plan spec place) r'.world ∧ Worker.recordings lived = recorded

/-- Others are at work. -/
theorem livesOn_of_others (doing : Elsewhere σ) (same : r'.workers[place]? = r.workers[place]?)
    (world : doing.apply r.world = r'.world)
    (other : doing.recorder? ≠ some (r.workerAt plan spec place).spec.name) :
    LivesOn plan spec place r r' [] := by
  refine ⟨_, Worker.Lives.here.on (.others doing) ?_, rfl⟩
  rw [workerAt_congr same, ← world]
  exact if_neg other

/-- The worker stays as it is, and only the broker changes, if anything. -/
theorem livesOn_of_dealt (same : r'.workers[place]? = r.workers[place]?) (broker : σ)
    (world : r'.world = r.world.withBroker broker) : LivesOn plan spec place r r' [] :=
  livesOn_of_others (.dealt broker) same world.symm nofun

/-- The runner calls the handle of one worker. -/
theorem livesOn_of_set {index : Nat} {w w' : Worker} {lived : List (Worker.Moment σ)}
    (there : r.workers[index]? = some w) (workers : r'.workers = r.workers.set index w')
    (broker : σ) (world : r'.world = r.world.withBroker broker)
    (lives : Worker.Lives plan.client w r.world lived w' r'.world)
    (silent : Worker.recordings lived = []) : LivesOn plan spec place r r' [] := by
  by_cases here : place = index
  · subst here
    have inside := (List.getElem?_eq_some_iff.1 there).1
    have there' : r'.workers[place]? = some w' := by
      rw [workers, List.getElem?_set_self inside]
    refine ⟨lived, ?_, silent⟩
    rwa [workerAt_of_some there, workerAt_of_some there']
  · refine livesOn_of_dealt ?_ broker world
    rw [workers, List.getElem?_set_ne (Ne.symm here)]

theorem livesOn_startWorker {next : WorkerSpec} {rest : List WorkerSpec} (roster : Roster plan r)
    (there : plan.scenario.workers[place]? = some spec)
    (stage : r.stage = .starting (next :: rest)) :
    LivesOn plan spec place r (r.startWorker plan next rest) [] := by
  have workers : (r.startWorker plan next rest).workers = r.workers ++
      [((unstarted plan next).start plan.client plan.scenario.target r.world.broker).2.1] := rfl
  by_cases here : place = r.workers.length
  · subst here
    obtain rfl := Option.some.inj ((roster.spec_of_next stage).symm.trans there)
    have after : (r.startWorker plan next rest).workers[r.workers.length]? = some
        ((unstarted plan next).start plan.client plan.scenario.target r.world.broker).2.1 := by
      rw [workers, List.getElem?_concat_length]
    refine ⟨_, Worker.Lives.here.on (.start plan.scenario.target) ?_, rfl⟩
    rw [workerAt_of_none (List.getElem?_eq_none (Nat.le_refl _)), workerAt_of_some after]
    rfl
  · refine livesOn_of_dealt ?_ _ rfl
    rw [workers]
    rcases Nat.lt_or_gt_of_ne here with earlier | later
    · exact List.getElem?_append_left earlier
    · rw [List.getElem?_eq_none (Nat.le_of_lt later), List.getElem?_eq_none]
      rw [List.length_append]
      exact later

/-- A stop that has waited for a loop comes to its end. -/
theorem livesOn_finishStop {index : Nat} {w w' : Worker} {lived : List (Worker.Moment σ)}
    {join : Except BrokerError Ticket} {outcome : StopOutcome}
    (there : r.workers[index]? = some w)
    (lives : Worker.Lives plan.client w r.world lived w' r.world)
    (silent : Worker.recordings lived = []) (stands : w'.At .leaving join)
    (fits : outcome.fits w'.ending? = true) :
    LivesOn plan spec place r (r.finishStop plan index w' outcome) [] := by
  have parting : w'.isParting = true := by
    cases stands with
    | @leaves ticket _ state held => exact Worker.isParting_iff.2 ⟨state, ticket, held⟩
  have parts : w'.happen plan.client r.world (.part outcome) = some
      ((w'.finishStop plan.client outcome r.world.broker).2.1,
        r.world.withBroker (w'.finishStop plan.client outcome r.world.broker).2.2) :=
    if_pos (by rw [parting, fits]; rfl)
  refine livesOn_of_set there rfl _ rfl (lives.on (.part outcome) parts) ?_
  rw [Worker.recordings_snoc, silent]
  rfl

/-- A handle that serves can be asked to stop. -/
theorem lives_ask {client : Client σ} {w w' : Worker} {waits : Bool} {world : World σ}
    {join : Except BrokerError Ticket} (stands : w.At .serving join)
    (begun : w.beginStop = (waits, w')) :
    Worker.Lives client w world [⟨w, world, .ask⟩] w' world := by
  have free : w.isParting = false := by
    rw [Bool.eq_false_iff]
    intro parting
    exact stands.ne_stopped (Worker.isParting_iff.1 parting).1
  refine Worker.Lives.here.on .ask ?_
  show (if w.isParting then none else some (w.beginStop.2, world)) = _
  rw [free, begun]
  rfl

theorem Posts.at_leaver (posts : Posts plan r results) {index : Nat} {w : Worker}
    (leaver : r.stage.leaver? = some index) (torn : r.stage.torn r.workers.length = index)
    (there : r.workers[index]? = some w) : ∃ join, w.At .leaving join := by
  obtain ⟨join, -, stands⟩ := posts.exists_at there
  rw [post_of_leaver leaver torn, if_neg (Nat.lt_irrefl index), if_pos rfl] at stands
  exact ⟨join, stands⟩

theorem Posts.at_stopping (posts : Posts plan r results) {index : Nat} {w : Worker}
    (stage : r.stage = .stopping index) (there : r.workers[index]? = some w) :
    ∃ join, w.At .serving join := by
  obtain ⟨join, -, stands⟩ := posts.exists_at there
  rw [stage, post_stopping, if_neg (Nat.lt_irrefl index)] at stands
  exact ⟨join, stands⟩

theorem livesOn_of_turn (roster : Roster plan r) (posts : Posts plan r results)
    (there : plan.scenario.workers[place]? = some spec) (turn : Turn plan r r') :
    LivesOn plan spec place r r' [] := by
  cases turn with
  | startedOne stage => exact livesOn_startWorker roster there stage
  | @published _ _ _ broker | @publishRefused _ _ _ broker | @publishNoted _ _ _ broker =>
      exact livesOn_of_dealt rfl broker rfl
  | startFailed | startedAll | settled | publishFailed | publishedAll | metAll | metSome | timedOut
  | overflowed | violated | verified | judged | stoppedAll | reported =>
      exact livesOn_of_dealt rfl r.world.broker rfl
  | closed => exact livesOn_of_dealt rfl (plan.client.close r.world.broker).2 rfl
  | marked stage there begun | asked stage there begun =>
      obtain ⟨join, stands⟩ := posts.at_stopping stage there
      exact livesOn_of_set there rfl r.world.broker rfl (lives_ask stands begun) rfl
  | ended stage there ended | endedLate stage there ended =>
      obtain ⟨join, stands⟩ := posts.at_leaver (by rw [stage]; rfl) (by rw [stage]; rfl) there
      refine livesOn_finishStop there .here rfl stands ?_
      simp [StopOutcome.fits, ended]
  | @aborted index w w' stage there goesOn aborted =>
      obtain ⟨join, stands⟩ := posts.at_leaver (by rw [stage]; rfl) (by rw [stage]; rfl) there
      obtain ⟨ticket, rfl⟩ : ∃ ticket, join = .ok ticket := by
        cases stands with
        | leaves => exact ⟨_, rfl⟩
      have abort : w.happen plan.client r.world .abort = some (w', r.world) := by
        show w.abort?.map _ = _
        rw [aborted]
        rfl
      refine livesOn_finishStop there (.on .abort .here abort) rfl (stands.abort aborted) ?_
      obtain ⟨l, rfl, phase⟩ := Worker.exists_of_abort? aborted
      simp [StopOutcome.fits, Worker.ending?, Loop.ending?, phase]

/-- The loop of the worker itself takes a step. -/
theorem livesOn_workerStep (taken : r.workerStep plan place = some r') :
    LivesOn plan spec place r r' (⟨r, .worker place⟩ : Moment σ).recording?.toList := by
  unfold workerStep at taken
  split at taken
  · cases taken
  · rename_i w here
    rcases Option.map_eq_some_iff.1 taken with ⟨⟨w', world⟩, stepped, rfl⟩
    have inside := (List.getElem?_eq_some_iff.1 here).1
    have after : (r.workers.set place w')[place]? = some w' := List.getElem?_set_self inside
    have mover : (⟨r, .worker place⟩ : Moment σ).loop? = w.loop := by simp [Moment.loop?, here]
    refine ⟨[⟨w, r.world, .step⟩], ?_, ?_⟩
    · rw [workerAt_of_some here, workerAt_of_some after]
      exact .on .step .here stepped
    · rw [← List.nil_append [_], Worker.recordings_snoc]
      unfold Moment.recording?
      rw [mover]
      rfl

theorem livesOn_of_step (distinct : (plan.scenario.workers.map WorkerSpec.name).Nodup)
    (roster : Roster plan r) (posts : Posts plan r results)
    (there : plan.scenario.workers[place]? = some spec) (taken : r.step plan s = some r') :
    LivesOn plan spec place r r'
      (if s = .worker place then (⟨r, s⟩ : Moment σ).recording?.toList else []) := by
  cases s with
  | runner => exact livesOn_of_turn roster posts there (runnerStep_turn taken)
  | timeout =>
      rcases timeoutStep_cases taken with ⟨unmet, -, -, rfl⟩ | ⟨index, w, -, -, -, rfl⟩
      · exact livesOn_of_dealt rfl r.world.broker rfl
      · exact livesOn_of_dealt rfl r.world.broker rfl
  | gate name =>
      cases taken
      exact livesOn_of_others (.opened name) rfl rfl nofun
  | broker =>
      cases taken
      exact livesOn_of_dealt rfl _ rfl
  | worker index =>
      by_cases same : index = place
      · subst same
        rw [if_pos rfl]
        exact livesOn_workerStep taken
      · rw [if_neg fun other => same (Step.worker.inj other)]
        rcases workerStep_move taken with ⟨w, l, l', world, here, loop, move, rfl⟩
        obtain ⟨doing, done, named⟩ := move.exists_doing
        refine livesOn_of_others doing (List.getElem?_set_ne same) done ?_
        intro recorder
        have name := named _ recorder
        rw [roster.workerAt_spec there, roster.loops w (List.mem_of_getElem? here) l loop] at name
        have told := roster.spec_at here
        refine same ((Delivered.nameAt_inj distinct (List.getElem?_eq_some_iff.1 told).1
          (List.getElem?_eq_some_iff.1 there).1).1 ?_)
        rw [Delivered.nameAt_eq told, Delivered.nameAt_eq there]
        exact name.symm

/-! ## The whole run -/

/-- **Every worker of a run lives one of the lives of a worker**, and in both it puts the same on
record. -/
theorem Through.lives (distinct : (plan.scenario.workers.map WorkerSpec.name).Nodup)
    (through : Through plan broker past r) (there : plan.scenario.workers[place]? = some spec) :
    ∃ lived, Worker.Lives plan.client { spec, stopTimeout := plan.settings.stopTimeout }
      (Run.initial plan broker).world lived (r.workerAt plan spec place) r.world ∧
      Worker.recordings lived = recordings past place := by
  induction through with
  | initial => exact ⟨[], .here, rfl⟩
  | @step past r r' s through taken ih =>
      obtain ⟨lived, lives, recorded⟩ := ih
      obtain ⟨more, goesOn, new⟩ :=
        livesOn_of_step distinct through.reachable.roster through.posts there taken
      refine ⟨lived ++ more, lives.trans goesOn, ?_⟩
      rw [recordings_snoc, ← recorded, ← new]
      exact List.filterMap_append

/-- In every run the journal has of a worker what its loop has recorded, in order, and every
delivery that failed is blamed once, but for one that is about to be. -/
theorem Through.blamed (distinct : (plan.scenario.workers.map WorkerSpec.name).Nodup)
    (through : Through plan broker past r) (there : plan.scenario.workers[place]? = some spec)
    (printable : spec.Printable) :
    Shards.of r.world.journal.observed spec.name =
        (recordings past place).map Recording.observation ∧
      Shards.of r.world.journal.failed spec.name ++ (r.workerAt plan spec place).unblamed =
        (recordings past place).filterMap Recording.failure? := by
  obtain ⟨lived, lives, recorded⟩ := through.lives distinct there
  have kept := lives.kept rfl printable
  rw [kept.journal.failed, ← recorded]
  exact ⟨kept.journal.observed, kept.blamed⟩

end Run

end DeliveryBench
