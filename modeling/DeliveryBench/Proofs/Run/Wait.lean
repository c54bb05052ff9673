import DeliveryBench.Proofs.Run.Verdict

/-!
# What the wait for the signals vouches for

A loop puts a delivery on record, then its failure, if it failed, and only then counts it on its
signal. `Agrees` ties what a loop is about to do to the last delivery that it has put on record, and
every step keeps it (`InAgreement.step`). So whatever has been counted is in the journal, together
with its failure (`Through.vouched`), and once the runner verifies, the journal holds as many
deliveries as were waited for.

If one of them failed and failures count, the run cannot end in success any more
(`Condemned.steps`).
-/

namespace DeliveryBench

variable {σ : Type}

namespace Run

variable {plan : Plan σ} {broker : σ} {past : List (Moment σ)} {r r' : Run σ} {s : Step}
  {j j' : Journal}

/-- The handler failure that a recorded delivery leads to. -/
def Recording.failure (d : Recording) (reason : String) : HandlerFailure :=
  ⟨d.observation.worker, d.observation.id, d.observation.payload, reason, d.observation.sequence⟩

/-- The delivery is on record, and if it failed, so is its failure. -/
structure Vouched (j : Journal) (d : Recording) : Prop where
  observed : d.observation ∈ j.observations
  judged : d.verdict = .ok ∨
    ∃ reason, d.verdict.failure? = some reason ∧ d.failure reason ∈ j.handlerFailures

theorem Vouched.grows {d : Recording} (vouched : Vouched j d) (grows : j.Grows j') :
    Vouched j' d where
  observed := grows.mem_observations vouched.observed
  judged := by
    rcases vouched.judged with fine | ⟨reason, failed, member⟩
    · exact .inl fine
    · exact .inr ⟨reason, failed, grows.mem_handlerFailures member⟩

/-! ## Deliveries on record -/

theorem recordings_snoc (past : List (Moment σ)) (x : Moment σ) (place : Nat) :
    recordings (past ++ [x]) place =
      recordings past place ++ if x.step = .worker place then x.recording?.toList else [] := by
  unfold recordings
  rw [List.filter_append, List.filterMap_append]
  by_cases here : x.step = .worker place
  · cases record : x.recording? <;> simp [here, record]
  · simp [here]

theorem recordings_of_other {x : Moment σ} {place : Nat} (other : x.step ≠ .worker place) :
    recordings (past ++ [x]) place = recordings past place := by
  rw [recordings_snoc, if_neg other, List.append_nil]

theorem recordings_of_none {x : Moment σ} (none : x.recording? = none) (place : Nat) :
    recordings (past ++ [x]) place = recordings past place := by
  rw [recordings_snoc, none]
  simp

/-- What a loop does next goes back to the delivery that it has put on record last. -/
structure Agrees (past : List (Moment σ)) (j : Journal) (place : Nat) (l : Loop) : Prop where
  observed : ∀ m sequence verdict, l.phase = .observed m sequence verdict →
    ∃ d, (recordings past place).getLast? = some d ∧ d.observation ∈ j.observations ∧
      d = ⟨⟨l.spec.name, m.id, m.payload, m.key, sequence⟩, verdict⟩
  recorded : ∀ m, l.phase = .recorded m →
    ∃ d, (recordings past place).getLast? = some d ∧ Vouched j d

/-- A loop that has put nothing on record of late has nothing to agree with. -/
theorem agrees_of_phase {past : List (Moment σ)} {place : Nat} {l : Loop}
    (unobserved : ∀ m sequence verdict, l.phase ≠ .observed m sequence verdict)
    (unrecorded : ∀ m, l.phase ≠ .recorded m) : Agrees past j place l where
  observed := fun m sequence verdict phase => absurd phase (unobserved m sequence verdict)
  recorded := fun m phase => absurd phase (unrecorded m)

/-- A step that puts nothing on record for a place leaves its loop in agreement. -/
theorem Agrees.aside {past past' : List (Moment σ)} {place : Nat} {l l' : Loop}
    (agrees : Agrees past j place l) (grows : j.Grows j')
    (same : recordings past' place = recordings past place) (orders : l'.spec = l.spec)
    (phase : l'.phase = l.phase ∨ ∃ ending, l'.phase = .ended ending) :
    Agrees past' j' place l' := by
  rcases phase with unmoved | ⟨ending, ended⟩
  · refine ⟨?_, ?_⟩
    · intro m sequence verdict observed
      rw [unmoved] at observed
      obtain ⟨d, last, member, here⟩ := agrees.observed m sequence verdict observed
      exact ⟨d, same ▸ last, grows.mem_observations member, orders ▸ here⟩
    · intro m recorded
      rw [unmoved] at recorded
      obtain ⟨d, last, vouched⟩ := agrees.recorded m recorded
      exact ⟨d, same ▸ last, vouched.grows grows⟩
  · apply agrees_of_phase <;> simp [ended]

theorem recording?_eq_none {x : Moment σ} {l : Loop} (mover : x.loop? = some l)
    (unhandled : ∀ m reaction, l.phase ≠ .handling m reaction) : x.recording? = none := by
  unfold Moment.recording?
  rw [mover]
  dsimp only
  split
  · rename_i m reaction phase
    exact absurd phase (unhandled m reaction)
  · rfl

theorem Agrees.move {index : Nat} {w : Worker} {l l' : Loop} {world : World σ}
    (agrees : Agrees past r.world.journal index l) (there : r.workers[index]? = some w)
    (loop : w.loop = some l) (move : Loop.Move plan.client l r.world l' world) :
    Agrees (past ++ [⟨r, .worker index⟩]) world.journal index l' := by
  have mover := loop?_worker there loop
  cases move with
  | stopped | deserted | broke | collapsed | counted => exact agrees_of_phase (by simp) (by simp)
  | took => apply agrees_of_phase <;> simp [Loop.take]
  | @observed m reaction phase =>
      have recorded : (⟨r, .worker index⟩ : Moment σ).recording? = some
          ⟨⟨l.spec.name, m.id, m.payload, m.key, r.world.journal.next⟩, reaction.verdict⟩ := by
        simp [Moment.recording?, mover, phase]
      refine ⟨?_, fun _ phase' => by cases phase'⟩
      intro m' sequence verdict phase'
      cases phase'
      refine ⟨_, ?_, Journal.mem_observations_record _ _ _, rfl⟩
      rw [recordings_snoc, if_pos rfl, recorded, Option.toList_some, List.getLast?_concat]
  | @passed m sequence phase =>
      obtain ⟨d, last, member, rfl⟩ := agrees.observed m sequence .ok phase
      have nothing := recording?_eq_none mover (by simp [phase])
      refine ⟨?_, fun m' _ => ⟨_, ?_, member, .inl rfl⟩⟩
      · intro _ _ _ phase'
        cases phase'
      · rw [recordings_of_none nothing, last]
  | @failed m sequence verdict reason phase bad =>
      obtain ⟨d, last, member, rfl⟩ := agrees.observed m sequence verdict phase
      have nothing := recording?_eq_none mover (by simp [phase])
      have grows := Journal.grows_recordFailure r.world.journal l.spec.name m sequence reason
      refine ⟨?_, fun m' _ => ⟨_, ?_, grows.mem_observations member, .inr ⟨reason, bad, ?_⟩⟩⟩
      · intro _ _ _ phase'
        cases phase'
      · rw [recordings_of_none nothing, last]
      · exact Journal.mem_handlerFailures_recordFailure _ _ _ _ _

/-- Every loop agrees with what has been put on record for its place. -/
def InAgreement (past : List (Moment σ)) (r : Run σ) : Prop :=
  ∀ place w l, r.workers[place]? = some w → w.loop = some l →
    Agrees past r.world.journal place l

theorem InAgreement.step (agreement : InAgreement past r) (change : Change plan r s r') :
    InAgreement (past ++ [⟨r, s⟩]) r' := by
  have grows := change.journal_grows
  -- A loop that did not move, or was stopped in its tracks.
  have left {place : Nat} {w : Worker} {l l' : Loop} (there : r.workers[place]? = some w)
      (loop : w.loop = some l) (other : s ≠ .worker place) (orders : l'.spec = l.spec)
      (phase : l'.phase = l.phase ∨ ∃ ending, l'.phase = .ended ending) :
      Agrees (past ++ [⟨r, s⟩]) r'.world.journal place l' :=
    (agreement place w l there loop).aside grows (recordings_of_other other) orders phase
  intro place w' l' there' loop'
  cases change with
  | @moved index w l moved _ there loop move =>
      have there'' : (r.workers.set index { w with loop := some moved })[place]? = some w' := there'
      rw [List.getElem?_set] at there''
      split at there''
      · rename_i here
        subst here
        rcases List.getElem?_eq_some_iff.1 there with ⟨inside, -⟩
        rw [if_pos inside] at there''
        cases there''
        cases loop'
        exact (agreement index w l there loop).move there loop move
      · rename_i elsewhere
        exact left there'' loop' (fun same => elsewhere (Step.worker.inj same)) rfl (.inl rfl)
  | @started spec rest stage =>
      obtain ⟨w, workers, -, idle⟩ := startWorker_workers plan r spec rest
      rw [workers] at there'
      rcases Group.getElem?_concat_cases there' with old | ⟨-, rfl⟩
      · exact left old loop' nofun rfl (.inl rfl)
      · have phase := (idle l' loop').2
        apply agrees_of_phase <;> simp [phase]
  | @woundDown index w w'' _ there calm workers =>
      rw [workers, List.getElem?_set] at there'
      split at there'
      · rename_i here
        subst here
        rcases List.getElem?_eq_some_iff.1 there with ⟨inside, -⟩
        rw [if_pos inside] at there'
        cases there'
        obtain ⟨l, loop, orders, phase⟩ := calm.loop l' loop'
        exact left there loop nofun orders phase
      · exact left there' loop' nofun rfl (.inl rfl)
  | elsewhere workers _ _ _ other =>
      rw [workers] at there'
      exact left there' loop' (other place) rfl (.inl rfl)

theorem Through.inAgreement (through : Through plan broker past r) : InAgreement past r := by
  induction through with
  | initial => exact fun place w l there => nomatch there
  | step s _ taken ih => exact ih.step (step_change taken)

/-! ## Deliveries that have been counted -/

theorem countedOn?_eq_some {x : Moment σ} {id : SignalId} (counts : x.countedOn? = some id) :
    ∃ place w l m, x.step = .worker place ∧ x.before.workers[place]? = some w ∧
      w.loop = some l ∧ l.phase = .recorded m := by
  unfold Moment.countedOn? at counts
  split at counts
  · cases counts
  · rename_i l mover
    split at counts
    · rename_i m phase
      unfold Moment.loop? at mover
      split at mover
      · rename_i place step
        rcases Option.bind_eq_some_iff.1 mover with ⟨w, there, loop⟩
        exact ⟨place, w, l, m, step, there, loop, phase⟩
      · cases mover
    · cases counts

/-- What a worker counts is the delivery that it has put on record last. -/
theorem Through.counts {earlier later : List (Moment σ)} {x : Moment σ} {id : SignalId}
    (through : Through plan broker (earlier ++ x :: later) r) (counts : x.countedOn? = some id) :
    ∃ place d, x.step = .worker place ∧ (recordings earlier place).getLast? = some d ∧
      Vouched x.before.world.journal d := by
  obtain ⟨place, w, l, m, step, there, loop, phase⟩ := countedOn?_eq_some counts
  have agrees := through.before.inAgreement place w l there loop
  obtain ⟨d, last, vouched⟩ := agrees.recorded m phase
  exact ⟨place, d, step, last, vouched⟩

/-- A delivery that has been counted on a signal: when a worker counted on it, this was what it had
put on record last. -/
def Counted (past : List (Moment σ)) (id : SignalId) (d : Recording) : Prop :=
  ∃ earlier x later place, past = earlier ++ x :: later ∧ x.step = .worker place ∧
    x.countedOn? = some id ∧ (recordings earlier place).getLast? = some d

/-- Whatever has been counted is on record, and its failure, if it failed. -/
theorem Through.vouched (through : Through plan broker past r) {id : SignalId} {d : Recording}
    (counted : Counted past id d) : Vouched r.world.journal d := by
  obtain ⟨earlier, x, later, place, rfl, step, counts, last⟩ := counted
  obtain ⟨place', d', step', last', vouched⟩ := through.counts counts
  obtain rfl : place = place' := Step.worker.inj (step.symm.trans step')
  obtain rfl : d = d' := Option.some.inj (last.symm.trans last')
  exact vouched.grows (through.journal_grows x (by simp))

/-! ## A failure that counts -/

/-- A handler has failed, and the run has not ended in success in spite of it. -/
structure Condemned (r : Run σ) : Prop where
  failed : r.world.journal.handlerFailures ≠ []
  decided : r.stage.isDecided = true → r.outcome ≠ .ok ()
  reported : ∀ report, r.stage = .done report → report.outcome ≠ .ok ()

theorem condemned_of_undecided (failed : r.world.journal.handlerFailures ≠ [])
    (undecided : r.stage.isDecided = false) : Condemned r where
  failed := failed
  decided := fun decided => absurd decided (by simp [undecided])
  reported := by
    intro report stage
    rw [stage] at undecided
    cases undecided

theorem Condemned.step (condemned : Condemned r) (counts : plan.settings.failOnHandlerError = true)
    (taken : r.step plan s = some r') : Condemned r' := by
  have course := step_course taken
  refine ⟨?_, ?_, ?_⟩
  · obtain ⟨f, member⟩ := List.exists_mem_of_ne_nil _ condemned.failed
    exact List.ne_nil_of_mem ((step_change taken).journal_grows.mem_handlerFailures member)
  · intro decided
    cases before : r.stage.isDecided with
    | true =>
        rw [(course.stands before).outcome]
        exact condemned.decided before
    | false =>
        intro ok
        obtain ⟨-, -, fine⟩ := (course.decides before decided).2 ok
        rw [counts] at fine
        exact condemned.failed (Standard.no_failures_of_checkHandlers fine)
  · intro report stage
    rcases course.done stage with already | ⟨-, reporting, rfl⟩
    · exact condemned.reported report already
    · exact condemned.decided (by rw [reporting]; rfl)

theorem Condemned.steps {taken : List Step} (condemned : Condemned r)
    (counts : plan.settings.failOnHandlerError = true) (run : r.steps plan taken = some r') :
    Condemned r' := by
  induction taken generalizing r with
  | nil =>
      cases run
      exact condemned
  | cons s rest ih =>
      rcases Option.bind_eq_some_iff.1 run with ⟨next, first, later⟩
      exact ih (condemned.step counts first) later

/-! ## The wait -/

/-- A snapshot shows as many deliveries to some workers as the journal holds. -/
theorem deliveredTo_eq (j : Journal) (names : List String) :
    j.snapshot.observations.countP (fun o => names.contains o.worker) = j.deliveredTo names :=
  (sortBy_perm _ _).countP_eq _

/-- **The wait is sound.** In every state of a run whose signals were fresh at the start:

* no signal has been counted down more often than deliveries to its workers are on record;
* every count-down counts the delivery that its worker has put on record last, and that delivery is
  in the journal, together with its failure if it failed;
* if the deliveries are now to be verified, all signals that workers carry are at zero, as many
  deliveries as each has been waiting for are in the snapshot, and if one that has been counted
  failed and failures count, then the run will not end in success. -/
theorem wait_is_sound (fresh : ∀ signal ∈ plan.scenario.signals, signal.count = signal.expected)
    (through : Through plan broker past r) :
    (∀ id, countDowns past id ≤ r.world.journal.snapshot.observations.countP fun o =>
      (plan.scenario.carriers id).contains o.worker) ∧
    (∀ id signal, plan.scenario.signals[id]? = some signal →
      r.world.count id = signal.expected - countDowns past id) ∧
    (∀ earlier x later id, past = earlier ++ x :: later → x.countedOn? = some id →
      ∃ place d, x.step = .worker place ∧ (recordings earlier place).getLast? = some d) ∧
    (∀ id d, Counted past id d → Vouched r.world.journal d) ∧
    (r.stage = .verifying →
      (∀ id ∈ Scenario.distinctSignals plan.scenario.workers, r.world.count id = 0) ∧
      (∀ id ∈ Scenario.distinctSignals plan.scenario.workers, ∀ signal,
        plan.scenario.signals[id]? = some signal →
        signal.expected ≤ r.world.journal.snapshot.observations.countP fun o =>
          (plan.scenario.carriers id).contains o.worker) ∧
      (plan.settings.failOnHandlerError = true →
        ∀ id d, Counted past id d → d.verdict ≠ .ok →
          ∀ taken r' report, r.steps plan taken = some r' → r'.stage = .done report →
            report.outcome ≠ .ok ())) := by
  obtain ⟨-, barrier⟩ := through.barrier
  have fresh' {id : SignalId} {signal : Signal}
      (there : plan.scenario.signals[id]? = some signal) : signal.count = signal.expected :=
    fresh signal (List.mem_of_getElem? there)
  refine ⟨?_, ?_, ?_, fun id d counted => through.vouched counted, ?_⟩
  · intro id
    have covered := barrier.covered id
    rw [deliveredTo_eq]
    omega
  · intro id signal there
    rw [barrier.count_eq there, fresh' there]
  · rintro earlier x later id rfl counts
    obtain ⟨place, d, step, last, -⟩ := through.counts counts
    exact ⟨place, d, step, last⟩
  · intro stage
    refine ⟨?_, ?_, ?_⟩
    · intro id carried
      apply through.reachable.met_eq_zero
      rw [stage]
      exact carried
    · intro id carried signal there
      rw [deliveredTo_eq, ← fresh' there]
      exact through.reachable.deliveries_of_verifying stage carried there
    · intro counts id d counted bad taken r' report run ended
      have failed : r.world.journal.handlerFailures ≠ [] := by
        rcases (through.vouched counted).judged with fine | ⟨reason, -, member⟩
        · exact absurd fine bad
        · exact List.ne_nil_of_mem member
      have condemned := condemned_of_undecided failed (by rw [stage]; rfl)
      exact (condemned.steps counts run).reported report ended

/-- One worker, whose handler fails on the only message. -/
theorem wait_for_a_failing_handler :
    let w : WorkerSpec :=
      { name := "a", handler := some fun _ _ _ => { verdict := .error "no" }, signal := some 0 }
    let d : Draft :=
      { name := "wait"
        topic := some "orders"
        subscription := some "audit"
        workers := [w]
        messages := [⟨.ofNat 0, "note", none⟩]
        signals := [.fresh 1] }
    let plan := Broker.plan (d.assemble ⟨⟨"orders", "audit"⟩, .shared⟩) {}
    let taken : List Step := List.replicate 5 .runner ++ List.replicate 4 (.worker 0) ++ [.runner]
    (∀ signal ∈ plan.scenario.signals, signal.count = signal.expected) ∧
      ∃ past r, (initial plan {}).steps plan taken = some r ∧ Through plan {} past r ∧
        r.stage = .verifying ∧ 1 ≤ countDowns past 0 ∧
        1 ≤ r.world.journal.snapshot.observations.countP fun o =>
          (plan.scenario.carriers 0).contains o.worker := by
  intro w d plan taken
  have come : verifies ((initial plan {}).steps plan taken) = true := by decide +kernel
  rcases exists_of_verifies come with ⟨r, run, stage⟩
  obtain ⟨past, through⟩ := Through.initial.steps run
  have fresh : ∀ signal ∈ plan.scenario.signals, signal.count = signal.expected := by decide
  obtain ⟨-, left, -, -, verified⟩ := wait_is_sound fresh through
  obtain ⟨atZero, enough, -⟩ := verified stage
  have met : r.world.count 0 = 0 := atZero 0 (by decide)
  rw [left 0 (.fresh 1) rfl] at met
  exact ⟨fresh, past, r, run, through, stage, Nat.le_of_sub_eq_zero met,
    enough 0 (by decide) (.fresh 1) rfl⟩

end Run

end DeliveryBench
