import DeliveryBench.Proofs.Run.Judgement
import DeliveryBench.Proofs.Run.Phases
import DeliveryBench.Run.Publishing

/-!
# Publishing in turn and together

A run publishes its messages in turn, and gives up at the first that fails, or together, and then
the first failure counts. Nobody can tell one way from the other if the producer refuses everything
once it has refused anything, as the broker in memory does
(`Producer.RefusesForGood.publishAll_eq`). Where the result for a message is fixed, whatever else
has been done, the two ways come to the same, but not after the same attempts
(`PublishMode.Comes`).

What is said of a list of messages holds of runs. A run that nobody disturbs while it publishes goes
on from what publishing the whole list comes to (`Run.steps_of_publishing`), and where the results
are fixed no run can be disturbed (`Run.Through.attempts`): the invariant is that what has been
attempted so far is the front of the list, and what has failed is the first failure in it.
-/

namespace DeliveryBench

variable {σ : Type}

/-! ## What publishing comes to -/

/-- Which messages have been attempted when one fails after some that did not. -/
def PublishMode.attempted (mode : PublishMode) (before : List Message) (m : Message)
    (after : List Message) : List Message :=
  match mode with
  | .sequential => before ++ [m]
  | .concurrent => before ++ m :: after

/-- What publishing comes to, and after which attempts, given the result for each message. -/
inductive PublishMode.Comes (mode : PublishMode) (result : Message → Except BrokerError Unit)
    (messages : List Message) : Except Failure Unit → List Message → Prop
  | ok : (∀ m ∈ messages, result m = .ok ()) → Comes mode result messages (.ok ()) messages
  /-- The first message that fails decides. -/
  | error {before after : List Message} {m : Message} {e : BrokerError} :
    messages = before ++ m :: after → (∀ m' ∈ before, result m' = .ok ()) → result m = .error e →
    Comes mode result messages (.error (.publish m.id e)) (mode.attempted before m after)

namespace PublishMode

variable {mode : PublishMode} {result : Message → Except BrokerError Unit}
  {messages attempted : List Message} {outcome : Except Failure Unit}

theorem Comes.cons {m : Message} (fine : result m = .ok ())
    (comes : mode.Comes result messages outcome attempted) :
    mode.Comes result (m :: messages) outcome (m :: attempted) := by
  cases comes with
  | ok all => exact .ok (List.forall_mem_cons.2 ⟨fine, all⟩)
  | @error before after x e split earlier failed =>
      have same : mode.attempted (m :: before) x after = m :: mode.attempted before x after := by
        cases mode <;> rfl
      rw [← same]
      exact .error (by rw [split]; rfl) (List.forall_mem_cons.2 ⟨fine, earlier⟩) failed

/-- Together, all messages are attempted. -/
theorem Comes.attempted_together (comes : concurrent.Comes result messages outcome attempted) :
    attempted = messages := by
  cases comes with
  | ok => rfl
  | error split => exact split.symm

theorem Comes.outcome_eq_ok_iff (comes : mode.Comes result messages outcome attempted) :
    outcome = .ok () ↔ ∀ m ∈ messages, result m = .ok () := by
  cases comes with
  | ok all => exact ⟨fun _ => all, fun _ => rfl⟩
  | @error before after m e split _ failed =>
      refine ⟨nofun, fun all => ?_⟩
      have fine := all m (by rw [split]; exact List.mem_append_right _ List.mem_cons_self)
      cases fine.symm.trans failed

/-- A list has one first message that fails. -/
theorem eq_of_first {before before' after after' : List Message} {m m' : Message}
    (same : before ++ m :: after = before' ++ m' :: after')
    (fine : ∀ x ∈ before, result x = .ok ()) (bad : result m ≠ .ok ())
    (fine' : ∀ x ∈ before', result x = .ok ()) (bad' : result m' ≠ .ok ()) :
    before = before' ∧ m = m' ∧ after = after' := by
  induction before generalizing before' with
  | nil =>
      cases before' with
      | nil => exact ⟨rfl, List.cons.inj same⟩
      | cons x rest =>
          obtain ⟨rfl, -⟩ := List.cons.inj same
          exact absurd (fine' _ List.mem_cons_self) bad
  | cons x rest ih =>
      cases before' with
      | nil =>
          obtain ⟨rfl, -⟩ := List.cons.inj same
          exact absurd (fine _ List.mem_cons_self) bad'
      | cons x' rest' =>
          obtain ⟨rfl, others⟩ := List.cons.inj same
          obtain ⟨rfl, found⟩ := ih others (fun x member => fine x (List.mem_cons_of_mem _ member))
            fun x member => fine' x (List.mem_cons_of_mem _ member)
          exact ⟨rfl, found⟩

/-- What publishing comes to does not depend on the mode, and the mode decides after which
attempts. -/
theorem Comes.unique {mode' : PublishMode} {attempted' : List Message}
    {outcome' : Except Failure Unit} (comes : mode.Comes result messages outcome attempted)
    (comes' : mode'.Comes result messages outcome' attempted') :
    outcome = outcome' ∧ (mode = mode' → attempted = attempted') := by
  have fine := comes.outcome_eq_ok_iff
  have fine' := comes'.outcome_eq_ok_iff
  cases comes with
  | ok all =>
      cases comes' with
      | ok => exact ⟨rfl, fun _ => rfl⟩
      | error => cases fine'.2 all
  | error split earlier failed =>
      cases comes' with
      | ok all => cases fine.2 all
      | error split' earlier' failed' =>
          obtain ⟨rfl, rfl, rfl⟩ := eq_of_first (split.symm.trans split') earlier
            (by simp [failed]) earlier' (by simp [failed'])
          cases failed.symm.trans failed'
          exact ⟨rfl, fun same => same ▸ rfl⟩

end PublishMode

/-! ## A list of messages -/

/-- What is written down of the attempts to publish some messages. -/
def Deed.attempts (topic : String) (result : Message → Except BrokerError Unit)
    (attempted : List Message) : List Deed :=
  attempted.map fun m => .published topic m (result m)

namespace Producer

variable {p : Producer σ} {topic : String} {mode : PublishMode} {m : Message}
  {rest : List Message} {s s' : σ}

theorem publishAll_nil : p.publishAll mode topic [] s = (.ok (), s) := by
  cases mode <;> rfl

theorem publishAll_of_ok (answer : p.publish topic m s = (.ok (), s')) :
    p.publishAll mode topic (m :: rest) s = p.publishAll mode topic rest s' := by
  cases mode with
  | sequential =>
      show p.publishInTurn topic (m :: rest) s = _
      unfold publishInTurn
      rw [answer]
      rfl
  | concurrent =>
      show p.publishTogether topic (m :: rest) s = _
      unfold publishTogether
      rw [answer]
      rfl

theorem publishInTurn_of_error {e : BrokerError} (answer : p.publish topic m s = (.error e, s')) :
    p.publishAll .sequential topic (m :: rest) s = (.error (.publish m.id e), s') := by
  show p.publishInTurn topic (m :: rest) s = _
  unfold publishInTurn
  rw [answer]

theorem publishTogether_of_error {e : BrokerError}
    (answer : p.publish topic m s = (.error e, s')) :
    p.publishAll .concurrent topic (m :: rest) s =
      (.error (.publish m.id e), (p.publishAll .concurrent topic rest s').2) := by
  show p.publishTogether topic (m :: rest) s = _
  unfold publishTogether
  rw [answer]
  rfl

/-- A producer that has refused a message does nothing, and refuses all others. -/
def RefusesForGood (p : Producer σ) (topic : String) : Prop :=
  ∀ ⦃m e s s'⦄, p.publish topic m s = (.error e, s') →
    s' = s ∧ ∀ m', ∃ e', p.publish topic m' s = (.error e', s)

theorem publishTogether_of_refused (refuses : ∀ m, ∃ e, p.publish topic m s = (.error e, s))
    (messages : List Message) : (p.publishAll .concurrent topic messages s).2 = s := by
  induction messages with
  | nil => rfl
  | cons m rest ih =>
      obtain ⟨e, refused⟩ := refuses m
      rw [publishTogether_of_error refused, ih]

/-- If a producer refuses everything once it has refused anything, it makes no difference that the
others are still tried. -/
theorem RefusesForGood.publishAll_eq (refuses : p.RefusesForGood topic) (messages : List Message)
    (s : σ) : p.publishAll .sequential topic messages s =
      p.publishAll .concurrent topic messages s := by
  induction messages generalizing s with
  | nil => rfl
  | cons m rest ih =>
      generalize answer : p.publish topic m s = answered
      obtain ⟨result, s'⟩ := answered
      cases result with
      | ok => rw [publishAll_of_ok answer, publishAll_of_ok answer, ih]
      | error e =>
          obtain ⟨rfl, others⟩ := refuses answer
          rw [publishInTurn_of_error answer, publishTogether_of_error answer,
            publishTogether_of_refused others]

/-- The result for a message is fixed, whatever else has been done. -/
def Determined (p : Producer σ) (topic : String) (result : Message → Except BrokerError Unit) :
    Prop :=
  ∀ m s, (p.publish topic m s).1 = result m

variable {result : Message → Except BrokerError Unit}

theorem Determined.publish_eq (fixed : p.Determined topic result) (m : Message) (s : σ) :
    p.publish topic m s = (result m, (p.publish topic m s).2) :=
  Prod.ext (fixed m s) rfl

theorem Determined.publish_logged (fixed : p.Determined topic result) (m : Message) (s : σ)
    (log : List Deed) : p.logged.publish topic m ⟨s, log⟩ =
      (result m, ⟨(p.publish topic m s).2, log ++ Deed.attempts topic result [m]⟩) := by
  show (_, _) = _
  rw [fixed m s]
  rfl

/-- Where the results are fixed, so is what publishing comes to. -/
theorem Determined.publishAll (fixed : p.Determined topic result) (mode : PublishMode)
    (messages : List Message) (s : σ) (log : List Deed) :
    ∃ attempted, mode.Comes result messages (p.publishAll mode topic messages s).1 attempted ∧
      p.logged.publishAll mode topic messages ⟨s, log⟩ =
        ((p.publishAll mode topic messages s).1,
          ⟨(p.publishAll mode topic messages s).2, log ++ Deed.attempts topic result attempted⟩) := by
  induction messages generalizing s log with
  | nil =>
      rw [publishAll_nil, publishAll_nil]
      exact ⟨[], .ok nofun, by rw [Deed.attempts, List.map_nil, List.append_nil]⟩
  | cons m rest ih =>
      have one := fixed.publish_eq m s
      have written := fixed.publish_logged m s log
      obtain ⟨attempted, comes, others⟩ :=
        ih (p.publish topic m s).2 (log ++ Deed.attempts topic result [m])
      cases answer : result m with
      | ok =>
          rw [answer] at one written
          rw [publishAll_of_ok one, publishAll_of_ok written, others]
          exact ⟨m :: attempted, comes.cons answer, by rw [List.append_assoc]; rfl⟩
      | error e =>
          rw [answer] at one written
          have comes' : mode.Comes result (m :: rest) (.error (.publish m.id e))
            (mode.attempted [] m rest) := .error rfl nofun answer
          refine ⟨mode.attempted [] m rest, ?_⟩
          cases mode with
          | sequential =>
              rw [publishInTurn_of_error one, publishInTurn_of_error written]
              exact ⟨comes', rfl⟩
          | concurrent =>
              rw [publishTogether_of_error one, publishTogether_of_error written, others,
                comes.attempted_together]
              exact ⟨comes', by rw [List.append_assoc]; rfl⟩

end Producer

/-- Once the broker in memory has refused a message, because it is closed or because it is meant to
fail, it does so again and again. -/
theorem Broker.producer_refusesForGood (topic : String) : producer.RefusesForGood topic := by
  intro m e b b' refused
  change b.publish topic m = (.error e, b') at refused
  unfold publish at refused
  split at refused
  · rename_i isClosed
    cases refused
    exact ⟨rfl, fun _ => ⟨.closed, if_pos isClosed⟩⟩
  · rename_i isOpen
    split at refused
    · rename_i faulty
      cases refused
      exact ⟨rfl, fun _ => ⟨_, (if_neg isOpen).trans (if_pos faulty)⟩⟩
    · cases refused

/-! ## A run that is not disturbed -/

namespace Run

section Undisturbed

variable {plan : Plan σ} {r : Run σ} {messages : List Message} {failed : Option Failure}

theorem afterPublishing_of_published (broker : σ) (stage : Stage)
    (result : Except Failure Unit × σ) :
    afterPublishing plan { r with world := r.world.withBroker broker, stage } result =
      r.afterPublishing plan result := by
  obtain ⟨outcome, broker'⟩ := result
  cases outcome <;> rfl

/-- A failure that has been met before counts, whatever becomes of the others. -/
def afterFailing (failed : Option Failure) (result : Except Failure Unit × σ) :
    Except Failure Unit × σ :=
  match failed with
  | none => result
  | some f => (.error f, result.2)

theorem afterFailing_error (failed : Option Failure) (f : Failure)
    (result : Except Failure Unit × σ) :
    afterFailing (some (failed.getD f)) result = afterFailing failed (.error f, result.2) := by
  cases failed <;> rfl

/-- The runner publishes all messages in a row. One after the other, it has met no failure yet. -/
theorem steps_of_publishing (stage : r.stage = .publishing messages failed)
    (unfailed : plan.settings.publishMode = .sequential → failed = none) :
    ∃ count, r.steps plan (List.replicate count .runner) = some (r.afterPublishing plan
      (afterFailing failed (plan.producer.publishAll plan.settings.publishMode
        plan.scenario.target.topic messages r.world.broker))) := by
  induction messages generalizing r failed with
  | nil =>
      have last : r.step plan .runner = some (r.afterPublish plan failed) := by
        unfold step runnerStep
        rw [stage]
      refine ⟨1, (steps_cons last _).trans ?_⟩
      rw [Producer.publishAll_nil]
      cases failed <;> rfl
  | cons m rest ih =>
      have first : r.step plan .runner = some (r.publishOne plan m rest failed) := by
        unfold step runnerStep
        rw [stage]
      generalize answer : plan.producer.publish plan.scenario.target.topic m r.world.broker =
        answered at first
      obtain ⟨result, broker⟩ := answered
      unfold publishOne at first
      rw [answer] at first
      cases result with
      | ok =>
          obtain ⟨count, others⟩ := ih (r := { r with
            world := r.world.withBroker broker, stage := .publishing rest failed }) rfl unfailed
          refine ⟨count + 1, (steps_cons first _).trans (others.trans ?_)⟩
          rw [afterPublishing_of_published, Producer.publishAll_of_ok answer]
          rfl
      | error e =>
          dsimp only at first
          cases mode : plan.settings.publishMode with
          | sequential =>
              rw [mode] at first
              refine ⟨1, (steps_cons first _).trans ?_⟩
              rw [Producer.publishInTurn_of_error answer, unfailed mode]
              rfl
          | concurrent =>
              rw [mode] at first ih
              obtain ⟨count, others⟩ := ih (r := { r with
                world := r.world.withBroker broker
                stage := .publishing rest (some (failed.getD (.publish m.id e))) }) rfl nofun
              refine ⟨count + 1, (steps_cons first _).trans (others.trans ?_)⟩
              rw [afterPublishing_of_published, Producer.publishTogether_of_error answer,
                afterFailing_error]
              rfl

end Undisturbed

/-! ## Every run -/

/-- The first failure among the results for some messages. -/
def firstFailure (result : Message → Except BrokerError Unit) (tried : List Message) :
    Option Failure :=
  tried.findSome? fun m =>
    match result m with
    | .ok () => none
    | .error e => some (.publish m.id e)

section FirstFailure

variable {result : Message → Except BrokerError Unit} {tried : List Message} {m : Message}

theorem firstFailure_eq_none_iff :
    firstFailure result tried = none ↔ ∀ m ∈ tried, result m = .ok () := by
  unfold firstFailure
  rw [List.findSome?_eq_none_iff]
  refine forall₂_congr fun m _ => ?_
  cases result m <;> simp

theorem comes_of_firstFailure {f : Failure} (failed : firstFailure result tried = some f) :
    PublishMode.concurrent.Comes result tried (.error f) tried := by
  obtain ⟨before, m, after, rfl, first, fine⟩ := List.findSome?_eq_some_iff.1 failed
  have earlier : firstFailure result before = none := List.findSome?_eq_none_iff.2 fine
  cases answer : result m with
  | ok =>
      rw [answer] at first
      cases first
  | error e =>
      rw [answer] at first
      cases first
      exact .error rfl (firstFailure_eq_none_iff.1 earlier) answer

theorem firstFailure_concat_of_ok (fine : result m = .ok ()) :
    firstFailure result (tried ++ [m]) = firstFailure result tried := by
  unfold firstFailure
  rw [List.findSome?_append, List.findSome?_singleton, fine, Option.or_none]

theorem firstFailure_concat_of_error {e : BrokerError} (bad : result m = .error e) :
    firstFailure result (tried ++ [m]) =
      some ((firstFailure result tried).getD (.publish m.id e)) := by
  unfold firstFailure
  rw [List.findSome?_append, List.findSome?_singleton, bad]
  cases List.findSome? _ tried <;> rfl

end FirstFailure

/-- A run has gone on from what publishing has come to. -/
def WentOn (r : Run σ) : Except Failure Unit → Prop
  | .ok () => RunPhase.waiting ∈ r.transitions
  | .error f => RunPhase.waiting ∉ r.transitions ∧ r.stage.isDecided = true ∧
      r.outcome = .error f

theorem Charted.mem_transitions {r : Run σ} (charted : Charted r) {rest : List Message}
    {failed : Option Failure} (stage : r.stage = .publishing rest failed) :
    .publishing ∈ r.transitions ∧ RunPhase.waiting ∉ r.transitions := by
  rw [charted.transitions .publishing (by rw [stage]; rfl)]
  decide

theorem Course.transitions_grow {plan : Plan σ} {r r' : Run σ} {s : Step}
    (course : Course plan r s r') : r.transitions <+: r'.transitions := by
  cases course with
  | turned _ turn =>
      cases turn with
      | startedOne | published | publishNoted | metSome | overflowed | verified | stoppedAll | marked
      | asked | ended | endedLate | aborted | closed | reported => exact List.prefix_rfl
      | startFailed | startedAll | settled | publishRefused | publishFailed | publishedAll | metAll
      | timedOut | violated | judged => exact List.prefix_append _ _
  | ranOut | gaveUp => exact List.prefix_rfl
  | aside same => exact same.transitions ▸ List.prefix_rfl

/-- A run comes to publish when its workers have settled. -/
theorem Course.comes_to_publish {plan : Plan σ} {r r' : Run σ} {s : Step}
    (course : Course plan r s r') (absent : .publishing ∉ r.transitions) :
    .publishing ∉ r'.transitions ∨ r' = r.settle plan := by
  cases course with
  | turned _ turn =>
      cases turn with
      | settled => exact .inr rfl
      | startedOne | published | publishNoted | metSome | overflowed | verified | stoppedAll | marked
      | asked | ended | endedLate | aborted | closed | reported => exact .inl absent
      | startFailed | startedAll | publishRefused | publishFailed | publishedAll | metAll | timedOut
      | violated | judged => exact .inl (List.not_mem_append absent (by simp))
  | ranOut | gaveUp => exact .inl absent
  | aside same => exact .inl (same.transitions ▸ absent)

/-- How far a run has come with its messages. -/
inductive Attempts (plan : Plan σ) (result : Message → Except BrokerError Unit)
    (r : Run (Logged σ)) : Prop
  /-- It has not come to publish. -/
  | early : .publishing ∉ r.transitions → r.published = [] → Attempts plan result r
  /-- It has attempted the messages at the front, and noted the first failure, with which it does
  not go on unless the messages are published together. -/
  | during {tried rest : List Message} {failed : Option Failure} :
    r.stage = .publishing rest failed → plan.scenario.messages = tried ++ rest →
    r.published = Deed.attempts plan.scenario.target.topic result tried →
    firstFailure result tried = failed →
    (plan.settings.publishMode = .sequential → failed = none) → Attempts plan result r
  | finished {attempted : List Message} {outcome : Except Failure Unit} :
    plan.settings.publishMode.Comes result plan.scenario.messages outcome attempted →
    r.published = Deed.attempts plan.scenario.target.topic result attempted →
    r.WentOn outcome → Attempts plan result r

section Attempts

variable {plan : Plan σ} {broker : σ} {result : Message → Except BrokerError Unit}
  {past : List (Moment (Logged σ))} {r r' : Run (Logged σ)} {s : Step}

/-- One more attempt. -/
theorem published_of_attempt (fixed : plan.producer.Determined plan.scenario.target.topic result)
    {m : Message} {answer : Except BrokerError Unit} {after : Logged σ} {tried : List Message}
    (attempt : plan.logged.producer.publish plan.scenario.target.topic m r.world.broker =
      (answer, after))
    (published : r.published = Deed.attempts plan.scenario.target.topic result tried) :
    result m = answer ∧ after.log.filter Deed.isPublished =
      Deed.attempts plan.scenario.target.topic result (tried ++ [m]) := by
  cases (fixed.publish_logged m r.world.broker.broker r.world.broker.log).symm.trans attempt
  refine ⟨rfl, ?_⟩
  rw [List.filter_append]
  show r.published ++ Deed.attempts _ result [m] = _
  rw [published]
  exact List.map_append.symm

theorem WentOn.step {outcome : Except Failure Unit} (wentOn : r.WentOn outcome)
    (taken : r.step plan.logged s = some r') : r'.WentOn outcome := by
  have course := step_course taken
  cases outcome with
  | ok => exact course.transitions_grow.subset wentOn
  | error f =>
      obtain ⟨absent, decided, failed⟩ := wentOn
      have stands := course.stands decided
      exact ⟨stands.transitions ▸ absent, stands.decided, stands.outcome.trans failed⟩

theorem WentOn.idle {outcome : Except Failure Unit} (wentOn : r.WentOn outcome)
    (charted : Charted r) (rest : List Message) (failed : Option Failure) :
    r.stage ≠ .publishing rest failed := by
  intro stage
  cases outcome with
  | ok => exact (charted.mem_transitions stage).2 wentOn
  | error f =>
      have decided := wentOn.2.1
      rw [stage] at decided
      cases decided

theorem wentOn_tearDown (charted : Charted r) {rest : List Message} {failed : Option Failure}
    (stage : r.stage = .publishing rest failed) (f : Failure) :
    (r.tearDown (.error f)).WentOn (.error f) :=
  ⟨List.not_mem_append (charted.mem_transitions stage).2 (by simp), rfl, rfl⟩

/-- Where a run has tried some messages, it goes on to the next, or it goes by what publishing has
come to. -/
theorem attempts_turn (fixed : plan.producer.Determined plan.scenario.target.topic result)
    (charted : Charted r) {tried rest : List Message} {failed : Option Failure}
    (stage : r.stage = .publishing rest failed)
    (split : plan.scenario.messages = tried ++ rest)
    (published : r.published = Deed.attempts plan.scenario.target.topic result tried)
    (first : firstFailure result tried = failed)
    (unfailed : plan.settings.publishMode = .sequential → failed = none)
    (turn : Turn plan.logged r r') : Attempts plan result r' := by
  cases turn with
  | published here attempt =>
      cases here.symm.trans stage
      obtain ⟨fine, published'⟩ := published_of_attempt fixed attempt published
      refine .during rfl ?_ published' ((firstFailure_concat_of_ok fine).trans first) unfailed
      rw [split, List.append_assoc]
      rfl
  | @publishRefused m _ _ _ e here mode attempt =>
      cases here.symm.trans stage
      obtain ⟨bad, published'⟩ := published_of_attempt fixed attempt published
      have earlier := firstFailure_eq_none_iff.1 (first.trans (unfailed mode))
      have comes : plan.settings.publishMode.Comes result plan.scenario.messages
          (.error (.publish m.id e)) (tried ++ [m]) := by
        rw [show plan.settings.publishMode = .sequential from mode]
        exact .error split earlier bad
      exact .finished comes published' (wentOn_tearDown charted stage _)
  | publishNoted here mode attempt =>
      cases here.symm.trans stage
      obtain ⟨bad, published'⟩ := published_of_attempt fixed attempt published
      refine .during rfl ?_ published' ((firstFailure_concat_of_error bad).trans ?_) ?_
      · rw [split, List.append_assoc]
        rfl
      · rw [first]
      · intro mode'
        cases mode.symm.trans mode'
  | @publishFailed f here =>
      cases here.symm.trans stage
      rw [List.append_nil] at split
      have comes : plan.settings.publishMode.Comes result plan.scenario.messages (.error f)
          tried := by
        cases mode : plan.settings.publishMode with
        | sequential => cases unfailed mode
        | concurrent =>
            rw [split]
            exact comes_of_firstFailure first
      exact .finished comes published (wentOn_tearDown charted stage f)
  | publishedAll here =>
      cases here.symm.trans stage
      rw [List.append_nil] at split
      subst split
      exact .finished (.ok (firstFailure_eq_none_iff.1 first)) published List.mem_concat_self
  | _ here => cases here.symm.trans stage

theorem Attempts.step (fixed : plan.producer.Determined plan.scenario.target.topic result)
    (charted : Charted r) (attempts : Attempts plan result r)
    (taken : r.step plan.logged s = some r') : Attempts plan result r' := by
  have course := step_course taken
  cases attempts with
  | early absent none =>
      have same := published_step taken fun _ _ _ stage => absent (charted.mem_transitions stage).1
      rcases course.comes_to_publish absent with absent' | rfl
      · exact .early absent' (same.trans none)
      · exact .during rfl (List.nil_append _).symm (same.trans none) rfl fun _ => rfl
  | finished comes published wentOn =>
      have same := published_step taken fun _ _ _ => wentOn.idle charted _ _
      exact .finished comes (same.trans published) (wentOn.step taken)
  | during stage split published first unfailed =>
      by_cases runner : s = .runner
      · subst runner
        exact attempts_turn fixed charted stage split published first unfailed
          (runnerStep_turn taken)
      · have same := published_aside taken runner
        cases course with
        | turned runner' => exact absurd runner' runner
        | ranOut _ here | gaveUp _ here => cases here.symm.trans stage
        | aside beside =>
            exact .during (beside.stage.trans stage) split (same.trans published) first unfailed

/-- Where the results are fixed, every run attempts its messages as its mode has it, and goes by what
comes of it, whatever happens in between. -/
theorem Through.attempts (fixed : plan.producer.Determined plan.scenario.target.topic result)
    (through : Through plan.logged ⟨broker, []⟩ past r) : Attempts plan result r := by
  induction through with
  | initial => exact .early (show .publishing ∉ [RunPhase.idle, .workersStarting] by decide) rfl
  | step s before taken ih => exact ih.step fixed before.charted taken

end Attempts

/-- **Publishing in turn and together agree.** To a list of messages and to a broker in memory,
whatever its state, they do the same, with the same result. With any producer whose result for a
message is fixed they have the same result, that of the first message that fails, if there is one;
in turn, those up to it have then been attempted, and together all of them.

A run that publishes without being disturbed goes on from what publishing the list comes to. With a
producer whose results are fixed it cannot be disturbed: whatever happens in between, it has
attempted those messages when it is over, and goes by that result. -/
theorem publish_modes_agree :
    (∀ topic messages (b : Broker),
      Broker.producer.publishInTurn topic messages b =
        Broker.producer.publishTogether topic messages b) ∧
    (∀ {σ : Type} (p : Producer σ) topic result, p.Determined topic result → ∀ messages s log,
      (p.publishInTurn topic messages s).1 = (p.publishTogether topic messages s).1 ∧
      ((p.publishInTurn topic messages s).1 = .ok () ↔ ∀ m ∈ messages, result m = .ok ()) ∧
      ∀ mode, ∃ outcome broker attempted,
        p.publishAll mode topic messages s = (outcome, broker) ∧
        p.logged.publishAll mode topic messages ⟨s, log⟩ =
          (outcome, ⟨broker, log ++ Deed.attempts topic result attempted⟩) ∧
        mode.Comes result messages outcome attempted) ∧
    (∀ {σ : Type} (plan : Plan σ) (r : Run σ) messages, r.stage = .publishing messages none →
      ∃ count, r.steps plan (List.replicate count .runner) = some (r.afterPublishing plan
        (plan.producer.publishAll plan.settings.publishMode plan.scenario.target.topic messages
          r.world.broker))) ∧
    ∀ {σ : Type} (plan : Plan σ) broker result,
      plan.producer.Determined plan.scenario.target.topic result →
      ∀ past r, Through plan.logged ⟨broker, []⟩ past r → .publishing ∈ r.transitions →
      (∀ rest failed, r.stage ≠ .publishing rest failed) → ∃ outcome attempted,
        r.published = Deed.attempts plan.scenario.target.topic result attempted ∧
        r.WentOn outcome ∧
        plan.settings.publishMode.Comes result plan.scenario.messages outcome attempted := by
  refine ⟨fun topic => (Broker.producer_refusesForGood topic).publishAll_eq, ?_, ?_, ?_⟩
  · intro σ p topic result fixed messages s log
    obtain ⟨_, inTurn, -⟩ := fixed.publishAll .sequential messages s log
    obtain ⟨_, together, -⟩ := fixed.publishAll .concurrent messages s log
    refine ⟨(inTurn.unique together).1, inTurn.outcome_eq_ok_iff, fun mode => ?_⟩
    obtain ⟨attempted, comes, written⟩ := fixed.publishAll mode messages s log
    exact ⟨_, _, attempted, rfl, written, comes⟩
  · intro σ plan r messages stage
    exact steps_of_publishing stage fun _ => rfl
  · intro σ plan broker result fixed past r through come left
    cases through.attempts fixed with
    | early absent => exact absurd come absent
    | during stage => exact absurd stage (left _ _)
    | finished comes published wentOn => exact ⟨_, _, published, wentOn, comes⟩

/-! ## A producer that takes notes only -/

/-- What it says to a message. -/
def noteVerdict (m : Message) : Except BrokerError Unit :=
  if m.payload = "note" then .ok () else .error (.publishFailed "orders" m.payload)

def notesOnly : Producer Broker where
  publish _ m b := (noteVerdict m, b)

/-- One worker, and four messages, two of which are no notes. -/
def notesPlan (mode : PublishMode) : Plan Broker where
  scenario := Draft.assemble
    { name := "notes"
      workers := [{ name := "a" }]
      messages := [⟨.ofNat 0, "note", none⟩, ⟨.ofNat 1, "bill", none⟩, ⟨.ofNat 2, "note", none⟩,
        ⟨.ofNat 3, "card", none⟩] }
    ⟨⟨"orders", "audit"⟩, .shared⟩
  settings := { publishMode := mode }
  client := Broker.client
  producer := notesOnly

/-- It takes the runner so many steps to publish the messages. -/
def notesSteps (mode : PublishMode) : Nat :=
  match mode with
  | .sequential => 5
  | .concurrent => 8

theorem exists_notes (mode : PublishMode) :
    ∃ past r, Through (notesPlan mode).logged ⟨{}, []⟩ past r ∧ r.stage.isDecided = true ∧
      .publishing ∈ r.transitions := by
  have come : ((initial (notesPlan mode).logged ⟨{}, []⟩).steps (notesPlan mode).logged
      (List.replicate (notesSteps mode) .runner)).any (fun r =>
        r.stage.isDecided && r.transitions.contains .publishing) = true := by
    cases mode <;> decide +kernel
  obtain ⟨r, run, holds⟩ := (Option.any_eq_true _ _).1 come
  obtain ⟨past, through⟩ := Through.initial.steps run
  rw [Bool.and_eq_true, List.contains_iff_mem] at holds
  exact ⟨past, r, through, holds⟩

/-- The bill fails. In turn the last two messages are not attempted any more, together they are, and
it is still the bill that counts. -/
theorem publishing_four_messages :
    let bill := Failure.publish (.ofNat 1) (.publishFailed "orders" "bill")
    (∃ past r, Through (notesPlan .sequential).logged ⟨{}, []⟩ past r ∧
      r.outcome = .error bill ∧ r.published.length = 2) ∧
    (∃ past r, Through (notesPlan .concurrent).logged ⟨{}, []⟩ past r ∧
      r.outcome = .error bill ∧ r.published.length = 4) ∧
    let plan := notesPlan .concurrent
    let start := { initial plan {} with stage := .publishing plan.scenario.messages none }
    ∃ count r, start.steps plan (List.replicate count .runner) = some r ∧
      r.outcome = .error bill := by
  intro bill
  have each (mode : PublishMode) : ∃ past r, Through (notesPlan mode).logged ⟨{}, []⟩ past r ∧
      r.outcome = .error bill ∧ r.published.length = (mode.attempted [⟨.ofNat 0, "note", none⟩]
        ⟨.ofNat 1, "bill", none⟩ [⟨.ofNat 2, "note", none⟩, ⟨.ofNat 3, "card", none⟩]).length := by
    have comes : mode.Comes noteVerdict (notesPlan mode).scenario.messages (.error bill) _ :=
      .error rfl (List.forall_mem_singleton.2 rfl) rfl
    obtain ⟨past, r, through, decided, come⟩ := exists_notes mode
    have left (rest failed) : r.stage ≠ .publishing rest failed := by
      intro stage
      rw [stage] at decided
      cases decided
    obtain ⟨outcome, attempted, published, wentOn, comes'⟩ := publish_modes_agree.2.2.2
      (notesPlan mode) {} noteVerdict (fun _ _ => rfl) past r through come left
    obtain ⟨rfl, same⟩ := comes'.unique comes
    obtain rfl := same rfl
    exact ⟨past, r, through, wentOn.2.2, by rw [published]; exact List.length_map _⟩
  refine ⟨each .sequential, each .concurrent, ?_⟩
  intro plan start
  obtain ⟨count, run⟩ := publish_modes_agree.2.2.1 plan start plan.scenario.messages rfl
  exact ⟨count, _, run, rfl⟩

end Run

end DeliveryBench
