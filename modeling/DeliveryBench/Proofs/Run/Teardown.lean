import DeliveryBench.Proofs.Broker.Effect
import DeliveryBench.Proofs.Run.Parting
import DeliveryBench.Proofs.Run.Underway

/-!
# The teardown is complete

Whatever its broker does, a run comes to a report (`ComesToReport`), unless the sum of what is
missing on the signals is no word. By then it is torn down (`TornDown`): every worker is stopped,
every worker that has got a subscription has given it back, once and in its turn, and the client has
been closed after that. The report lists what failed of it, and nothing else in the report depends on
it (`AgreeUpToTeardown`).

On a broker in memory on which unsubscribing does not fail, as many subscriptions have been released
as workers have got one, and nobody is attached any more (`TornDown.tidy`).
-/

namespace DeliveryBench

variable {σ : Type}

/-! ## What every call keeps -/

/-- Every call of a plan keeps a property of its broker. -/
structure Plan.Preserves (plan : Plan σ) (P : σ → Prop) : Prop where
  subscribe : ∀ target s, P s → P (plan.client.subscribe target s).2
  receive : ∀ ticket s, P s → P (plan.client.receive ticket s).2
  unsubscribe : ∀ ticket s, P s → P (plan.client.unsubscribe ticket s).2
  release : ∀ ticket s, P s → P (plan.client.release ticket s)
  close : ∀ s, P s → P (plan.client.close s).2
  advance : ∀ s, P s → P (plan.client.advance s)
  publish : ∀ topic m s, P s → P (plan.producer.publish topic m s).2

namespace Run

variable {plan : Plan σ} {broker : σ} {past : List (Moment σ)} {r r' : Run σ} {s : Step}
  {P : σ → Prop}

theorem finishStop_preserves (preserves : plan.Preserves P) (holds : P r.world.broker)
    (index : Nat) (w : Worker) (outcome : StopOutcome) :
    P (r.finishStop plan index w outcome).world.broker := by
  cases held : w.ticket with
  | none =>
      unfold finishStop Worker.finishStop Worker.giveBack
      rw [held]
      exact holds
  | some ticket =>
      rw [finishStop_of_ticket _ _ index held]
      exact preserves.release _ _ (preserves.unsubscribe _ _ holds)

theorem Turn.preserves (turn : Turn plan r r') (preserves : plan.Preserves P)
    (holds : P r.world.broker) : P r'.world.broker := by
  cases turn with
  | startedOne =>
      rw [startWorker_broker]
      exact preserves.subscribe _ _ holds
  | @published m _ _ _ _ answer | @publishRefused m _ _ _ _ _ _ answer
  | @publishNoted m _ _ _ _ _ _ answer =>
      have after := preserves.publish plan.scenario.target.topic m _ holds
      rw [answer] at after
      exact after
  | ended | endedLate | aborted => exact finishStop_preserves preserves holds _ _ _
  | closed => exact preserves.close _ holds
  | startFailed | startedAll | settled | publishFailed | publishedAll | metAll | metSome
  | timedOut | overflowed | violated | verified | judged | stoppedAll | marked | asked
  | reported => exact holds

theorem step_preserves (taken : r.step plan s = some r') (preserves : plan.Preserves P)
    (holds : P r.world.broker) : P r'.world.broker := by
  cases s with
  | runner => exact (runnerStep_turn taken).preserves preserves holds
  | worker index =>
      rcases workerStep_move taken with ⟨w, l, l', world, there, loop, move, rfl⟩
      cases move with
      | took _ _ answer | deserted _ _ answer | broke _ _ answer =>
          have after := preserves.receive l.ticket _ holds
          rw [answer] at after
          exact after
      | counted =>
          show P (r.world.countDown _).broker
          rw [World.countDown_broker]
          exact holds
      | stopped | observed | collapsed | passed | failed => exact holds
  | timeout =>
      rcases timeoutStep_cases taken with ⟨unmet, stage, -, rfl⟩ | ⟨index, w, stage, there, -, rfl⟩
      · exact holds
      · exact holds
  | gate name =>
      cases taken
      exact holds
  | broker =>
      cases taken
      exact preserves.advance _ holds

/-- What holds of a broker at first, and is kept by every call, holds all through a run. -/
theorem Reachable.preserved (reachable : Reachable plan broker r) (preserves : plan.Preserves P)
    (start : P broker) : P r.world.broker := by
  induction reachable with
  | initial => exact start
  | step s _ taken ih => exact step_preserves taken preserves ih

end Run

/-! ## A broker in memory -/

def Deed.isUnsubscribed : Deed → Bool
  | .unsubscribed .. => true
  | _ => false

def Deed.isClosed : Deed → Bool
  | .closed _ => true
  | _ => false

/-- A logged broker in memory on which unsubscribing does not fail, since it was like `before`. -/
structure Broker.Tidy (before : Broker) (s : Logged Broker) : Prop where
  healthy : s.broker.faults.unsubscribe = false
  released : s.broker.released = before.released + s.log.countP Deed.isUnsubscribed
  deserted : ∀ address, s.broker.DesertedIfClosed address
  closed : s.log.any Deed.isClosed = true → s.broker.isClosed = true

/-- A call that neither gives a subscription back nor arranges a failure. -/
def Call.isOrdinary : Call → Bool
  | .unsubscribe _ | .failAttempt _ | .failUnsubscribe _ | .failPublish _ => false
  | _ => true

theorem Moment.ordinary_after {x : Moment} (ordinary : x.call.isOrdinary = true) :
    x.after.faults = x.before.faults ∧ x.after.released = x.before.released := by
  refine ⟨Moment.faults_after ?_, Moment.released_after ?_⟩
  · cases call : x.call <;> rw [call] at ordinary <;> cases ordinary <;> rfl
  · intro ticket call
    rw [call] at ordinary
    cases ordinary

namespace Broker

variable {before : Broker} {s : Logged Broker}

theorem Tidy.after (tidy : before.Tidy s) (call : Call) (ordinary : call.isOrdinary = true)
    {deeds : List Deed} (others : deeds.countP Deed.isUnsubscribed = 0)
    (closes : deeds.any Deed.isClosed = true → call = .close) :
    before.Tidy ⟨(s.broker.call call).2, s.log ++ deeds⟩ := by
  obtain ⟨faults, released⟩ := Moment.ordinary_after (x := ⟨s.broker, call⟩) ordinary
  refine ⟨?_, ?_, ?_, ?_⟩
  · exact (congrArg Faults.unsubscribe faults).trans tidy.healthy
  · rw [List.countP_append, others]
    exact released.trans tidy.released
  · exact fun address => Moment.desertedIfClosed_after (x := ⟨s.broker, call⟩) (tidy.deserted address)
  · intro closed
    rw [List.any_append, Bool.or_eq_true] at closed
    by_cases closing : call = .close
    · exact Moment.isClosed_of_close (x := ⟨s.broker, call⟩) closing
    · have earlier := closed.resolve_right fun new => closing (closes new)
      exact (Moment.isClosed_after (x := ⟨s.broker, call⟩) closing).trans (tidy.closed earlier)

theorem Tidy.unsubscribe (tidy : before.Tidy s) (ticket : Ticket) :
    before.Tidy ⟨(s.broker.unsubscribe ticket).2,
      s.log ++ [.unsubscribed ticket (s.broker.unsubscribe ticket).1]⟩ := by
  have deserted (address : Address) := Moment.desertedIfClosed_after
    (x := ⟨s.broker, .unsubscribe ticket⟩) (tidy.deserted address)
  have released : (s.broker.unsubscribe ticket).2.released = s.broker.released + 1 := by
    unfold Broker.unsubscribe
    rw [if_neg (by rw [tidy.healthy]; exact Bool.false_ne_true)]
  have healthy : (s.broker.unsubscribe ticket).2.faults = s.broker.faults :=
    (congrArg Broker.faults (s.broker.unsubscribe_snd_eq ticket) :)
  refine ⟨?_, ?_, deserted, ?_⟩
  · exact (congrArg Faults.unsubscribe healthy).trans tidy.healthy
  · rw [released, tidy.released, List.countP_append]
    rfl
  · intro closed
    rw [List.any_append, Bool.or_eq_true] at closed
    have earlier := closed.resolve_right Bool.false_ne_true
    exact (Moment.isClosed_after (x := ⟨s.broker, .unsubscribe ticket⟩) nofun).trans
      (tidy.closed earlier)

theorem plan_preserves_tidy (scenario : Scenario) (settings : Settings) :
    (Broker.plan scenario settings).logged.Preserves before.Tidy where
  subscribe target _ tidy := tidy.after (.subscribe target) rfl rfl nofun
  receive ticket s tidy := by
    have after := @Tidy.after _ s tidy (.receive ticket) rfl [] rfl nofun
    rwa [List.append_nil] at after
  unsubscribe ticket _ tidy := tidy.unsubscribe ticket
  release ticket s tidy := by
    have after := @Tidy.after _ s tidy (.release ticket) rfl [] rfl nofun
    rwa [List.append_nil] at after
  close _ tidy := tidy.after .close rfl rfl fun _ => rfl
  advance _ tidy := tidy
  publish topic m _ tidy := tidy.after (.publish topic m) rfl rfl nofun

theorem tidy_start (calls : List Call) (healthy : (after {} calls).faults.unsubscribe = false) :
    (after {} calls).Tidy ⟨after {} calls, []⟩ where
  healthy := healthy
  released := rfl
  deserted address := after_induction (motive := fun b => b.DesertedIfClosed address) calls
    (desertedIfClosed_new address) fun _ => Moment.desertedIfClosed_after
  closed := nofun

end Broker

/-! ## The report -/

namespace Run

/-- A report says what is noted in the state. -/
structure Filed (r : Run σ) (report : Report) : Prop where
  outcome : report.outcome = r.outcome
  transitions : report.transitions = r.transitions
  startFailures : report.startFailures = r.startFailures
  stopFailures : report.stopFailures = r.stopFailures
  closeFailure : report.closeFailure = r.closeFailure

theorem Reachable.filed {plan : Plan σ} {broker : σ} {r : Run σ} {report : Report}
    (reachable : Reachable plan broker r) (stage' : r.stage = .done report) : Filed r report := by
  induction reachable with
  | initial => cases stage'
  | @step r r' s _ taken ih =>
      cases step_course taken with
      | turned _ turn =>
          cases turn with
          | reported =>
              cases stage'
              exact ⟨rfl, rfl, rfl, rfl, rfl⟩
          | _ => cases stage'
      | ranOut | gaveUp => cases stage'
      | aside same =>
          have filed := ih (same.stage.symm.trans stage')
          exact ⟨filed.outcome.trans same.outcome.symm, filed.transitions.trans same.transitions.symm,
            filed.startFailures.trans same.startFailures.symm,
            filed.stopFailures.trans same.stopFailures.symm,
            filed.closeFailure.trans same.closeFailure.symm⟩

/-- Every run comes to a report: only so many steps press it on, and as long as there is no report,
one that does can be taken. -/
structure ComesToReport (plan : Plan σ) (broker : σ) : Prop where
  bounded : ∀ past r, Through plan broker past r → past.countP Moment.presses ≤ plan.patience
  live : ∀ r, Reachable plan broker r → (∃ report, r.stage = .done report) ∨
    ∃ s r', r.step plan s = some r' ∧ (⟨r, s⟩ : Moment σ).presses = true

/-- A run has ended with a report; its calls have been logged. -/
structure Ended (plan : Plan σ) (broker : σ) (past : List (Moment (Logged σ)))
    (r : Run (Logged σ)) (report : Report) : Prop where
  through : Through plan.logged ⟨broker, []⟩ past r
  stage : r.stage = .done report

/-- What has been done by the time of a report, and what the report says of it. -/
structure TornDown (plan : Plan σ) (past : List (Moment (Logged σ))) (r : Run (Logged σ))
    (report : Report) (d : Diary) : Prop where
  specs : r.workers.map Worker.spec = plan.scenario.workers
  stopped : ∀ w ∈ r.workers, w.state = .stopped
  log : r.world.broker.log = d.log
  attempted : d.joined.length = plan.scenario.workers.length
  /-- Those that have got a subscription give it back, in order, and nobody else. -/
  returned : d.stops.map Stop.toSeat = seats (plan.scenario.workers.zip d.joined)
  waited : ∀ stop ∈ d.stops, Waited past r stop
  closed : d.closing.isSome = true
  stopFailures : report.stopFailures = Stop.failures plan.settings.stopTimeout d.stops
  closeFailure : report.closeFailure = d.closing.bind BrokerError.ofResult?

theorem comesToReport {plan : Plan σ} {broker : σ} (fits : CountsFit plan broker) :
    ComesToReport plan broker where
  bounded _ _ through := Nat.le_trans (Nat.le_add_right _ _) through.presses_le
  live r reachable := by
    cases finished : r.stage.isOver with
    | false => exact .inr (reachable.can_press finished)
    | true => exact .inl (reachable.exists_report fits finished)

theorem Ended.tornDown {plan : Plan σ} {broker : σ} {past : List (Moment (Logged σ))}
    {r : Run (Logged σ)} {report : Report} (ended : Ended plan broker past r report) :
    ∃ d, TornDown plan past r report d := by
  obtain ⟨through, stage⟩ := ended
  obtain ⟨d, keeps⟩ := through.keeps
  have filed := through.reachable.filed stage
  have roster := through.reachable.roster
  have posts : Posts plan.logged r d.joined := keeps.joined ▸ through.posts
  have unstarted : r.stage.unstarted = [] := by
    rw [stage]
    rfl
  have crew : r.workers.length = plan.scenario.workers.length := roster.length_eq unstarted
  refine ⟨d, ?_⟩
  constructor
  · have specs := roster.specs
    rwa [unstarted, List.append_nil] at specs
  · intro w member
    obtain ⟨i, inside, rfl⟩ := List.getElem_of_mem member
    obtain ⟨_, -, stands⟩ := posts.exists_at (List.getElem?_eq_getElem inside)
    have left : r.stage.post r.workers.length i = .left := by
      rw [stage, Stage.post]
      exact if_pos inside
    rw [left] at stands
    exact stands.stopped
  · exact keeps.log
  · rw [posts.length, crew]
  · rw [keeps.stopped, stage]
    refine congrArg seats (List.take_of_length_le ?_)
    rw [List.length_zip, posts.length]
    exact Nat.min_le_right _ _
  · exact keeps.waited
  · rw [keeps.closing, stage]
    rfl
  · exact filed.stopFailures.trans keeps.stopFailures
  · exact filed.closeFailure.trans keeps.closeFailure

/-- Two plans lead to the same verdicts: to every run of the one there is a run of the other that
takes the same steps up to the teardown, and all those report the same, the teardown apart. -/
structure AgreeUpToTeardown (plan other : Plan σ) (broker : σ) : Prop where
  counterpart : ∀ past r report, Ended plan broker past r report →
    ∃ past' r' report', Ended other broker past' r' report' ∧
      upToTeardown past' = upToTeardown past
  agree : ∀ past r report past' r' report', Ended plan broker past r report →
    Ended other broker past' r' report' →
    (upToTeardown past').map Moment.step = (upToTeardown past).map Moment.step →
    report'.outcome = report.outcome ∧ report'.transitions = report.transitions ∧
      report'.startFailures = report.startFailures ∧ r'.published = r.published

theorem CountsFit.logged {plan : Plan σ} {broker : σ} (fits : CountsFit plan broker)
    (log : List Deed) : CountsFit plan.logged ⟨broker, log⟩ :=
  fun r reachable stage => fits (r.seen Logged.broker) reachable.unlogged stage

theorem agreeUpToTeardown {plan other : Plan σ} {broker : σ} (fits : CountsFit plan broker)
    (same : plan.SameUpToTeardown other) : AgreeUpToTeardown plan other broker where
  counterpart past r report ended := by
    have decided : r.stage.isDecided = true := by
      rw [ended.stage]
      rfl
    have logged : CountsFit plan.logged ⟨broker, []⟩ := fits.logged []
    have fits' : CountsFit other.logged ⟨broker, []⟩ := logged.of_same same.logged
    obtain ⟨past', r', report', through', stage', sameSteps⟩ :=
      ended.through.exists_counterpart same fits' decided
    exact ⟨past', r', report', ⟨through', stage'⟩, sameSteps⟩
  agree past r report past' r' report' ended ended' steps := by
    have settled : r'.decision = r.decision :=
      ended.through.decision_eq_of_same same (by rw [ended.stage]; rfl) ended'.through
        (by rw [ended'.stage]; rfl) steps
    have filed := ended.through.reachable.filed ended.stage
    have filed' := ended'.through.reachable.filed ended'.stage
    refine ⟨?_, ?_, ?_, ?_⟩
    · exact filed'.outcome.trans ((congrArg Decision.outcome settled).trans filed.outcome.symm)
    · exact filed'.transitions.trans
        ((congrArg Decision.transitions settled).trans filed.transitions.symm)
    · exact filed'.startFailures.trans
        ((congrArg Decision.startFailures settled).trans filed.startFailures.symm)
    · exact congrArg Decision.published settled

/-! ## A run in memory -/

theorem countP_isUnsubscribed_log (d : Diary) :
    d.log.countP Deed.isUnsubscribed = d.stops.length := by
  simp [Diary.log, List.countP_map, Function.comp_def, Deed.isUnsubscribed]

/-- On a broker in memory on which unsubscribing does not fail, everybody who has got a subscription
has released it by the end, and nobody is attached. -/
theorem TornDown.tidy {scenario : Scenario} {settings : Settings} {calls : List Call}
    {past : List (Moment (Logged Broker))} {r : Run (Logged Broker)} {report : Report} {d : Diary}
    (ended : Ended (Broker.plan scenario settings) (.after {} calls) past r report)
    (healthy : (Broker.after {} calls).faults.unsubscribe = false)
    (torn : TornDown (Broker.plan scenario settings) past r report d) :
    r.world.broker.broker.released = (Broker.after {} calls).released + d.stops.length ∧
      ∀ address, r.world.broker.broker.activeConsumers address = 0 := by
  have tidy := ended.through.reachable.preserved (Broker.plan_preserves_tidy scenario settings)
    (Broker.tidy_start calls healthy)
  refine ⟨?_, ?_⟩
  · rw [tidy.released, torn.log, countP_isUnsubscribed_log]
  · intro address
    obtain ⟨result, closing⟩ := Option.isSome_iff_exists.1 torn.closed
    have closed : r.world.broker.broker.isClosed = true := by
      refine tidy.closed (List.any_eq_true.2 ⟨.closed result, ?_, rfl⟩)
      rw [torn.log, Diary.log, closing]
      exact List.mem_append_right _ (List.mem_singleton_self _)
    unfold Broker.activeConsumers
    cases there : r.world.broker.broker.group? address with
    | none => rfl
    | some g => exact congrArg List.length (tidy.deserted address closed g there).1

/-- **The teardown is complete, and it settles nothing.** Where the sum of what is missing is a word,
every run comes to a report. By then all workers are stopped, those that have got a subscription have
given it back, once each and in order, the client has been closed after that, and the report lists
the failures of these stops and of closing. Its outcome, its phases and the failures to start do not
depend on what they come to, and neither does what has been published. On a broker in memory on which
unsubscribing does not fail, as many subscriptions have been released as there were workers that got
one, and nobody is attached any more. -/
theorem teardown_is_complete :
    (∀ {σ : Type} (plan : Plan σ) (broker : σ), CountsFit plan broker →
      ComesToReport plan broker ∧
      (∀ r, Reachable plan broker r ↔
        ∃ r', Reachable plan.logged ⟨broker, []⟩ r' ∧ r'.seen Logged.broker = r) ∧
      (∀ past r report, Ended plan broker past r report → ∃ d, TornDown plan past r report d) ∧
      ∀ other, plan.SameUpToTeardown other → AgreeUpToTeardown plan other broker) ∧
    ∀ (scenario : Scenario) (settings : Settings) (calls : List Call),
      (Broker.after {} calls).faults.unsubscribe = false →
      ∀ past r report,
        Ended (Broker.plan scenario settings) (.after {} calls) past r report →
        ∃ d, TornDown (Broker.plan scenario settings) past r report d ∧
          r.world.broker.broker.released = (Broker.after {} calls).released + d.stops.length ∧
          r.world.broker.broker.activeConsumers scenario.target.toAddress = 0 := by
  refine ⟨?_, ?_⟩
  · intro σ plan broker fits
    refine ⟨comesToReport fits, ?_, fun _ _ _ ended => ended.tornDown, ?_⟩
    · intro r
      refine ⟨fun reachable => reachable.logged [], ?_⟩
      rintro ⟨r', reachable, rfl⟩
      exact reachable.unlogged
    · exact fun other same => agreeUpToTeardown fits same
  · intro scenario settings calls healthy past r report ended
    obtain ⟨d, torn⟩ := ended.tornDown
    obtain ⟨released, deserted⟩ := torn.tidy ended healthy
    exact ⟨d, torn, released, deserted _⟩

/-- Two workers, of which the first waits at a gate that nobody opens. -/
def stuckDraft : Draft where
  name := "stuck"
  topic := some "orders"
  subscription := some "audit"
  workers := [{ name := "a", handler := some fun _ _ _ => { gate := some "never" } }, { name := "b" }]
  messages := [⟨.ofNat 0, "note", none⟩, ⟨.ofNat 1, "note", none⟩]

def stuckPlan : Plan Broker :=
  Broker.plan (stuckDraft.assemble ⟨⟨"orders", "audit"⟩, .shared⟩) {}

/-- The same, but nobody can unsubscribe. -/
def stubbornPlan : Plan Broker :=
  { stuckPlan with
    client := { stuckPlan.client with unsubscribe := fun _ b => (.error .closed, b) } }

/-- A way through it, on which both times run out: the one for waiting, and the one for the first
worker to wind down. -/
def stuckSteps : List Step :=
  List.replicate 7 .runner ++ [.worker 0] ++ List.replicate 4 (.worker 1)
    ++ [.timeout, .runner, .runner, .timeout, .runner, .runner, .worker 1]
    ++ List.replicate 4 .runner

/-- It ends with one stop that failed, and the verdict is the same where nobody can unsubscribe. -/
theorem teardown_of_a_stuck_worker :
    CountsFit stuckPlan {} ∧ (Broker.after {} []).faults.unsubscribe = false ∧
      ∃ past r report d, Ended stuckPlan {} past r report ∧ TornDown stuckPlan past r report d ∧
        report.timedOut = true ∧ report.stopFailures.length = 1 ∧
        r.world.broker.broker.released = d.stops.length ∧
        r.world.broker.broker.activeConsumers ⟨"orders", "audit"⟩ = 0 ∧
        ∃ past' r' report', Ended stubbornPlan {} past' r' report' ∧
          report'.outcome = report.outcome := by
  have fits : CountsFit stuckPlan {} := countsFit_of_start (by decide)
  have same : stuckPlan.SameUpToTeardown stubbornPlan := ⟨rfl, rfl, rfl, rfl, rfl, rfl⟩
  have healthy : (Broker.after {} []).faults.unsubscribe = false := rfl
  have come : (((initial stuckPlan.logged ⟨{}, []⟩).steps stuckPlan.logged stuckSteps).bind
      report?).any (fun report => report.timedOut && report.stopFailures.length = 1) = true := by
    decide +kernel
  obtain ⟨r, report, run, stage, holds⟩ := exists_of_report? come
  rw [Bool.and_eq_true, decide_eq_true_eq] at holds
  obtain ⟨past, through⟩ := Through.initial.steps run
  have ended : Ended stuckPlan {} past r report := ⟨through, stage⟩
  obtain ⟨whatever, memory⟩ := teardown_is_complete
  obtain ⟨-, -, -, verdict⟩ := whatever stuckPlan {} fits
  have agree := verdict stubbornPlan same
  obtain ⟨past', r', report', ended', steps⟩ := agree.counterpart past r report ended
  obtain ⟨outcome, -⟩ := agree.agree past r report past' r' report' ended ended' (by rw [steps])
  obtain ⟨d, torn, released, deserted⟩ := memory _ _ [] healthy past r report ended
  exact ⟨fits, healthy, past, r, report, d, ended, torn, holds.1, holds.2,
    released.trans (Nat.zero_add _), deserted, past', r', report', ended', outcome⟩

end Run

end DeliveryBench
