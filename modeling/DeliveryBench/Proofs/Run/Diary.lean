import DeliveryBench.Proofs.Run.Barrier
import DeliveryBench.Proofs.Run.Posts
import DeliveryBench.Run.Log
import DeliveryBench.Worker.Crew

/-!
# What a run asks of its broker

The log of a run has four parts, one after the other (`Diary.log`): the workers subscribe, messages
are published, the workers that have got a subscription give it back, and the client is closed.
Every run keeps such a diary (`Through.keeps`), and what it will report of its teardown can be read
there: which stops failed, and whether closing did.

A loop that is waited for comes to one of two outcomes. Either the time runs out on it, which is a
step of the past (`RanOut`), or it has ended by itself, and then it stays as it is (`Stop.Waited`).
-/

namespace DeliveryBench

variable {σ : Type}

def BrokerError.ofResult? : Except BrokerError Unit → Option BrokerError
  | .ok () => none
  | .error e => some e

/-- A worker that has got a subscription. -/
structure Seat where
  place : Nat
  worker : String
  ticket : Ticket

/-- Those that have got a subscription, among workers with what each of them got. -/
def seats (started : List (WorkerSpec × Except BrokerError Ticket)) : List Seat :=
  started.zipIdx.filterMap fun ((spec, join), place) =>
    join.toOption.map fun ticket => ⟨place, spec.name, ticket⟩

/-- The stop of a worker that has got a subscription. -/
structure Stop extends Seat where
  /-- What the wait for its loop came to. -/
  outcome : StopOutcome
  /-- What giving the subscription back came to. -/
  returned : Except BrokerError Unit

namespace Stop

/-- Whether there is nothing to be said against a stop. -/
def isClean (s : Stop) : Bool :=
  s.outcome = .ended .finished && (BrokerError.ofResult? s.returned).isNone

def reasons (timeout : Duration) (s : Stop) : List String :=
  (Worker.loopReason timeout s.outcome).toList
    ++ ((BrokerError.ofResult? s.returned).map BrokerError.message).toList

def failure (timeout : Duration) (s : Stop) : Failure :=
  .stop s.worker ("; ".intercalate (s.reasons timeout))

/-- The failures of those stops that are not clean. -/
def failures (timeout : Duration) (stops : List Stop) : List Failure :=
  (stops.filter fun s => !s.isClean).map (failure timeout)

theorem isEmpty_reasons (timeout : Duration) (s : Stop) :
    (s.reasons timeout).isEmpty = s.isClean := by
  unfold reasons isClean
  have loop : (Worker.loopReason timeout s.outcome).isNone =
      decide (s.outcome = .ended .finished) := by
    unfold Worker.loopReason
    split <;> simp_all
  rw [← loop]
  cases Worker.loopReason timeout s.outcome <;> cases BrokerError.ofResult? s.returned <;> rfl

/-- One stop more, and its failure, if it has one. -/
theorem failures_snoc (timeout : Duration) (stops : List Stop) (s : Stop) :
    failures timeout (stops ++ [s]) = failures timeout stops ++
      Crew.failureOf (Worker.stopVerdict s.worker (s.reasons timeout)) := by
  unfold failures Worker.stopVerdict
  rw [isEmpty_reasons, List.filter_append, List.map_append]
  cases clean : s.isClean <;> simp [clean, Crew.failureOf, failure]

end Stop

/-- The calls of a run to its broker, with their results. -/
structure Diary where
  joined : List (Except BrokerError Ticket) := []
  published : List (String × Message × Except BrokerError Unit) := []
  stops : List Stop := []
  closing : Option (Except BrokerError Unit) := none

def Diary.log (d : Diary) : List Deed :=
  d.joined.map .subscribed
    ++ d.published.map (fun (topic, m, result) => .published topic m result)
    ++ d.stops.map (fun s => .unsubscribed s.ticket s.returned)
    ++ d.closing.toList.map .closed

/-- What the stop of a worker that has a subscription comes to. -/
theorem Worker.finishStop_of_ticket {client : Client σ} (index : Nat) {w : Worker}
    {ticket : Ticket} (held : w.ticket = some ticket) (outcome : StopOutcome) (broker : σ) :
    w.finishStop client outcome broker =
      (stopVerdict w.spec.name (Stop.reasons w.stopTimeout ⟨⟨index, w.spec.name, ticket⟩, outcome,
          (client.unsubscribe ticket broker).1⟩),
        { w with ticket := none },
        client.release ticket (client.unsubscribe ticket broker).2) := by
  unfold finishStop giveBack Stop.reasons
  rw [held]
  dsimp only
  generalize client.unsubscribe ticket broker = answer
  obtain ⟨result, broker'⟩ := answer
  cases result <;> rfl

/-! ## Seats -/

section Seats

variable {started : List (WorkerSpec × Except BrokerError Ticket)} {spec : WorkerSpec} {i : Nat}

theorem seats_snoc (x : WorkerSpec × Except BrokerError Ticket) :
    seats (started ++ [x]) = seats started ++
      (x.2.toOption.map fun ticket => (⟨started.length, x.1.name, ticket⟩ : Seat)).toList := by
  unfold seats
  rw [List.zipIdx_append, List.filterMap_append]
  congr 1
  obtain ⟨spec, join⟩ := x
  cases join <;> simp [Except.toOption]

theorem seats_take_succ {join : Except BrokerError Ticket} (there : started[i]? = some (spec, join)) :
    seats (started.take (i + 1)) = seats (started.take i) ++
      (join.toOption.map fun ticket => (⟨i, spec.name, ticket⟩ : Seat)).toList := by
  have inside := (List.getElem?_eq_some_iff.1 there).1
  rw [List.take_add_one, there, Option.toList_some, seats_snoc, List.length_take,
    Nat.min_eq_left (Nat.le_of_lt inside)]

theorem place_lt_of_mem_seats {seat : Seat} (member : seat ∈ seats (started.take i)) :
    seat.place < i := by
  obtain ⟨⟨⟨spec, join⟩, place⟩, there, same⟩ := List.mem_filterMap.1 member
  rcases Option.map_eq_some_iff.1 same with ⟨ticket, -, rfl⟩
  have inside := (List.mem_zipIdx' there).1
  rw [List.length_take] at inside
  exact Nat.lt_of_lt_of_le inside (Nat.min_le_left _ _)

end Seats

/-- Moves of a loop are not written down. -/
theorem Loop.Move.log {plan : Plan σ} {l l' : Loop} {w w' : World (Logged σ)}
    (move : Loop.Move plan.logged.client l w l' w') : w'.broker.log = w.broker.log := by
  cases move with
  | took _ _ answer | deserted _ _ answer | broke _ _ answer =>
      exact congrArg (fun next => Logged.log (Prod.snd next)) answer.symm
  | counted =>
      rw [World.countDown_broker]
  | stopped | observed | collapsed | passed | failed => rfl

/-! ## The wait for a loop -/

/-- The runner has come beyond the point at which it waits for the loop at a place. -/
def Stage.isBeyond (place : Nat) : Stage → Bool
  | .stopping index | .awaiting index => place < index
  | .abandoning index => place ≤ index
  | .closing | .reporting | .done _ => true
  | _ => false

/-- The client has been closed. -/
def Stage.isClosed : Stage → Bool
  | .reporting | .done _ => true
  | _ => false

namespace Run

/-- The time for the loop at a place to wind down has run out. -/
def RanOut (past : List (Moment σ)) (place : Nat) : Prop :=
  ∃ x ∈ past, x.step = .timeout ∧ x.before.stage = .awaiting place

section Wait

variable {plan : Plan σ} {broker : σ} {past : List (Moment σ)} {r r' : Run σ} {s : Step}
  {place : Nat}

theorem RanOut.later (ranOut : RanOut past place) (x : Moment σ) : RanOut (past ++ [x]) place := by
  obtain ⟨y, member, timeout⟩ := ranOut
  exact ⟨y, List.mem_append_left _ member, timeout⟩

theorem ranOut_snoc {x : Moment σ} (ranOut : RanOut (past ++ [x]) place) :
    RanOut past place ∨ x.step = .timeout ∧ x.before.stage = .awaiting place := by
  obtain ⟨y, member, timeout⟩ := ranOut
  rcases List.mem_append.1 member with old | last
  · exact .inl ⟨y, old, timeout⟩
  · obtain rfl := List.mem_singleton.1 last
    exact .inr timeout

/-- The runner never goes back. -/
theorem Course.isBeyond (course : Course plan r s r') (beyond : r.stage.isBeyond place = true) :
    r'.stage.isBeyond place = true := by
  cases course with
  | turned _ turn =>
      cases turn with
      | startedOne stage | startFailed stage | startedAll stage | settled stage | published stage
      | publishRefused stage | publishNoted stage | publishFailed stage | publishedAll stage
      | metAll stage | metSome stage | timedOut stage | overflowed stage | violated stage
      | verified stage | judged stage =>
          rw [stage] at beyond
          cases beyond
      | stoppedAll | closed | reported => rfl
      | marked stage | asked stage | ended stage | endedLate stage | aborted stage =>
          rw [stage] at beyond
          simp only [Stage.isBeyond, decide_eq_true_eq, finishStop] at beyond ⊢
          omega
  | ranOut _ stage =>
      rw [stage] at beyond
      cases beyond
  | gaveUp _ stage =>
      rw [stage] at beyond
      simp only [Stage.isBeyond, decide_eq_true_eq] at beyond ⊢
      omega
  | aside same => rwa [same.stage]

theorem Through.isBeyond (through : Through plan broker past r) (ranOut : RanOut past place) :
    r.stage.isBeyond place = true := by
  induction through with
  | initial =>
      obtain ⟨x, member, -⟩ := ranOut
      cases member
  | step s _ taken ih =>
      have course := step_course taken
      rcases ranOut_snoc ranOut with before | ⟨timeout, awaiting⟩
      · exact course.isBeyond (ih before)
      · obtain rfl : s = .timeout := timeout
        rcases timeoutStep_cases taken with ⟨unmet, stage, -⟩ | ⟨index, w, stage, -, -, rfl⟩
        · cases stage.symm.trans awaiting
        · cases stage.symm.trans awaiting
          exact decide_eq_true (Nat.le_refl place)

/-- A loop is given up only after the time has run out on it. -/
theorem Through.ranOut (through : Through plan broker past r)
    (stage' : r.stage = .abandoning place) : RanOut past place := by
  induction through with
  | initial => cases stage'
  | @step past r r' s _ taken ih =>
      cases step_course taken with
      | turned _ turn => cases turn <;> cases stage'
      | ranOut => cases stage'
      | gaveUp timeout stage =>
          cases stage'
          exact ⟨⟨r, s⟩, List.mem_concat_self, timeout, stage⟩
      | aside same => exact (ih (same.stage.symm.trans stage')).later _

end Wait

/-- What the wait for a loop came to is what became of the loop. -/
def Waited (past : List (Moment σ)) (r : Run σ) (s : Stop) : Prop :=
  match s.outcome with
  | .timedOut => RanOut past s.place
  | .ended ending => ¬ RanOut past s.place ∧
      ∃ w l, r.workers[s.place]? = some w ∧ w.loop = some l ∧ l.phase = .ended ending

section Wait

variable {plan : Plan σ} {broker : σ} {past : List (Moment σ)} {r r' : Run σ} {s : Step}
  {results : List (Except BrokerError Ticket)} {index : Nat} {stop : Stop}

/-- A loop that has ended in time is found as it has ended. -/
theorem Through.waited_of_ended (through : Through plan broker past r) {w : Worker}
    {ending : Ending} (stage : r.stage = .awaiting index) (there : r.workers[index]? = some w)
    (ended : w.ending? = some ending) (place : stop.place = index)
    (outcome : stop.outcome = .ended ending) :
    Waited (past ++ [⟨r, .runner⟩]) (r.finishStop plan index w (.ended ending)) stop := by
  obtain ⟨l, loop, phase⟩ := Worker.exists_of_ending? ended
  unfold Waited
  rw [outcome, place]
  refine ⟨?_, { w with ticket := none }, l, ?_, loop, phase⟩
  · intro ranOut
    rcases ranOut_snoc ranOut with before | ⟨timeout, -⟩
    · have beyond := through.isBeyond before
      rw [stage] at beyond
      exact absurd (of_decide_eq_true beyond) (Nat.lt_irrefl index)
    · cases timeout
  · show (r.workers.set index (w.giveBack plan.client r.world.broker).2.1)[index]? = _
    rw [giveBack_loop, List.getElem?_set_self (List.getElem?_eq_some_iff.1 there).1]

/-- On a loop that is given up the time has run out. -/
theorem Through.waited_of_abandoning (through : Through plan broker past r)
    (stage : r.stage = .abandoning index) (place : stop.place = index)
    (outcome : stop.outcome = .timedOut) : Waited (past ++ [⟨r, s⟩]) r' stop := by
  unfold Waited
  rw [outcome, place]
  exact (through.ranOut stage).later _

/-- A worker that has left is left alone. -/
theorem Posts.left_alone (posts : Posts plan r results) (taken : r.step plan s = some r') {i : Nat}
    (left : i < r.stage.torn r.workers.length) : r'.workers[i]? = r.workers[i]? := by
  cases s with
  | runner =>
      cases runnerStep_turn taken with
      | startedOne stage =>
          rw [stage] at left
          cases left
      | startFailed | startedAll | settled | published | publishRefused | publishNoted
      | publishFailed | publishedAll | metAll | metSome | timedOut | overflowed | violated
      | verified | judged | stoppedAll | closed | reported => rfl
      | marked stage | asked stage | ended stage | endedLate stage | aborted stage =>
          rw [stage] at left
          exact List.getElem?_set_ne (Nat.ne_of_gt left)
  | worker index =>
      rcases workerStep_move taken with ⟨w, l, l', world, there, loop, move, rfl⟩
      refine List.getElem?_set_ne ?_
      rintro rfl
      obtain ⟨join, -, stands⟩ := posts.exists_at there
      rw [Stage.post, if_pos left] at stands
      cases stands with
      | left _ _ loop' ended =>
          obtain rfl := Option.some.inj (loop.symm.trans loop')
          exact move.unended _ ended
      | dismissed _ _ none => cases loop.symm.trans none
  | timeout =>
      rcases timeoutStep_cases taken with ⟨unmet, stage, -, rfl⟩ | ⟨index, w, stage, there, -, rfl⟩
      · rfl
      · rfl
  | gate name =>
      cases taken
      rfl
  | broker =>
      cases taken
      rfl

theorem Waited.later (waited : Waited past r stop) (posts : Posts plan r results)
    (taken : r.step plan s = some r') (left : stop.place < r.stage.torn r.workers.length) :
    Waited (past ++ [⟨r, s⟩]) r' stop := by
  unfold Waited at waited ⊢
  cases outcome : stop.outcome with
  | timedOut =>
      rw [outcome] at waited
      exact waited.later _
  | ended ending =>
      rw [outcome] at waited
      obtain ⟨inTime, loop⟩ := waited
      refine ⟨?_, ?_⟩
      · intro ranOut
        rcases ranOut_snoc ranOut with before | ⟨-, awaiting⟩
        · exact inTime before
        · rw [show r.stage = .awaiting stop.place from awaiting] at left
          exact Nat.lt_irrefl _ left
      · rwa [posts.left_alone taken left]

end Wait

/-! ## The diary of a run -/

/-- A run keeps a diary, in which the outcome of its teardown can be read. -/
structure Keeps (plan : Plan σ) (past : List (Moment (Logged σ))) (r : Run (Logged σ))
    (d : Diary) : Prop where
  log : r.world.broker.log = d.log
  joined : d.joined = joins plan.logged past
  unpublished : ∀ rest, r.stage = .starting rest → d.published = []
  stopped : d.stops.map Stop.toSeat =
    seats ((plan.scenario.workers.zip d.joined).take (r.stage.torn r.workers.length))
  waited : ∀ stop ∈ d.stops, Waited past r stop
  stopFailures : r.stopFailures = Stop.failures plan.settings.stopTimeout d.stops
  closing : d.closing.isSome = r.stage.isClosed
  closeFailure : r.closeFailure = d.closing.bind BrokerError.ofResult?

theorem startWorker_broker (plan : Plan σ) (r : Run σ) (spec : WorkerSpec)
    (rest : List WorkerSpec) :
    (r.startWorker plan spec rest).world.broker =
      (plan.client.subscribe plan.scenario.target r.world.broker).2 := by
  generalize answer : plan.client.subscribe plan.scenario.target r.world.broker = result
  obtain ⟨join, broker⟩ := result
  cases join with
  | ok ticket => rw [startWorker_of_ok spec rest answer]; rfl
  | error e => rw [startWorker_of_error spec rest answer]; rfl

theorem finishStop_of_ticket (plan : Plan σ) (r : Run σ) (index : Nat) {w : Worker}
    {ticket : Ticket} (held : w.ticket = some ticket) (outcome : StopOutcome) :
    r.finishStop plan index w outcome =
      { r.setWorker index { w with ticket := none } with
        world := r.world.withBroker
          (plan.client.release ticket (plan.client.unsubscribe ticket r.world.broker).2)
        stopFailures := r.stopFailures ++ Crew.failureOf (Worker.stopVerdict w.spec.name
          (Stop.reasons w.stopTimeout ⟨⟨index, w.spec.name, ticket⟩, outcome,
            (plan.client.unsubscribe ticket r.world.broker).1⟩))
        stage := .stopping (index + 1) } := by
  unfold finishStop
  rw [Worker.finishStop_of_ticket index held]
  dsimp only
  generalize Worker.stopVerdict _ _ = verdict
  cases verdict with
  | ok => rw [Crew.failureOf, List.append_nil]
  | error f => rfl

section Step

variable {plan : Plan σ} {broker : σ} {past : List (Moment (Logged σ))}
  {r r' : Run (Logged σ)} {d : Diary} {s : Step}

/-- Nobody has been stopped as long as the runner has not been through with anybody. -/
theorem Keeps.stops_eq_nil (keeps : Keeps plan past r d)
    (torn : r.stage.torn r.workers.length = 0) : d.stops = [] := by
  have stopped := keeps.stopped
  rw [torn, List.take_zero] at stopped
  exact List.map_eq_nil_iff.1 stopped

theorem Keeps.unclosed (keeps : Keeps plan past r d) (isOpen : r.stage.isClosed = false) :
    d.closing = none := by
  rw [← Option.not_isSome_iff_eq_none, keeps.closing, isOpen]
  exact Bool.false_ne_true

/-- What has been waited for is over. -/
theorem Keeps.waited_later (keeps : Keeps plan past r d) (posts : Posts plan.logged r d.joined)
    (taken : r.step plan.logged s = some r') :
    ∀ stop ∈ d.stops, Waited (past ++ [⟨r, s⟩]) r' stop := by
  intro stop member
  have seat := List.mem_map_of_mem (f := Stop.toSeat) member
  rw [keeps.stopped] at seat
  exact (keeps.waited stop member).later posts taken (place_lt_of_mem_seats seat)

/-- A step that calls nobody and is through with no worker that has a subscription. -/
theorem Keeps.calm (keeps : Keeps plan past r d) (posts : Posts plan.logged r d.joined)
    (taken : r.step plan.logged s = some r')
    (log : r'.world.broker.log = r.world.broker.log)
    (joined : (⟨r, s⟩ : Moment (Logged σ)).joined? plan.logged = none)
    (starting : ∀ rest, r'.stage = .starting rest → r.stage = .starting rest)
    (torn : seats ((plan.scenario.workers.zip d.joined).take (r'.stage.torn r'.workers.length)) =
      seats ((plan.scenario.workers.zip d.joined).take (r.stage.torn r.workers.length)))
    (stopFailures : r'.stopFailures = r.stopFailures)
    (closing : r'.stage.isClosed = r.stage.isClosed)
    (closeFailure : r'.closeFailure = r.closeFailure) :
    Keeps plan (past ++ [⟨r, s⟩]) r' d where
  log := log.trans keeps.log
  joined := by rw [joins_snoc, joined, Option.toList_none, List.append_nil]; exact keeps.joined
  unpublished rest stage := keeps.unpublished rest (starting rest stage)
  stopped := keeps.stopped.trans torn.symm
  waited := keeps.waited_later posts taken
  stopFailures := stopFailures.trans keeps.stopFailures
  closing := keeps.closing.trans closing.symm
  closeFailure := closeFailure.trans keeps.closeFailure

theorem Keeps.startWorker (keeps : Keeps plan past r d) {spec : WorkerSpec}
    {rest : List WorkerSpec} (stage : r.stage = .starting (spec :: rest)) :
    ∃ d', Keeps plan (past ++ [⟨r, .runner⟩]) (r.startWorker plan.logged spec rest) d' := by
  have unpublished := keeps.unpublished _ stage
  have unstopped := keeps.stops_eq_nil (by rw [stage]; rfl)
  have unclosed := keeps.unclosed (by rw [stage]; rfl)
  refine ⟨{ d with
    joined := d.joined ++
      [(plan.client.subscribe plan.scenario.target r.world.broker.broker).1] }, ?_⟩
  constructor
  · rw [startWorker_broker]
    show r.world.broker.log ++
      [.subscribed (plan.client.subscribe plan.scenario.target r.world.broker.broker).1] = _
    rw [keeps.log]
    simp [Diary.log, unpublished, unstopped, unclosed]
  · rw [joins_snoc, ← keeps.joined]
    simp [Moment.joined?, stage, Plan.logged, Client.logged]
  · exact fun _ _ => unpublished
  · show d.stops.map _ = seats (List.take 0 _)
    rw [unstopped]
    rfl
  · intro stop member
    rw [unstopped] at member
    cases member
  · exact keeps.stopFailures
  · rw [keeps.closing, stage]
    rfl
  · exact keeps.closeFailure

/-- A step that publishes a message, and goes on with the others or not. -/
theorem Keeps.publish (keeps : Keeps plan past r d) {m : Message} {rest : List Message}
    {failed : Option Failure} (stage : r.stage = .publishing (m :: rest) failed)
    {result : Except BrokerError Unit} {broker : Logged σ}
    (answer : plan.logged.producer.publish plan.scenario.target.topic m r.world.broker =
      (result, broker))
    (after : r'.world.broker = broker)
    (torn : r'.stage.torn r'.workers.length = 0)
    (onward : ∀ rest, r'.stage ≠ .starting rest)
    (stopFailures : r'.stopFailures = r.stopFailures)
    (closing : r'.stage.isClosed = false)
    (closeFailure : r'.closeFailure = r.closeFailure) :
    ∃ d', Keeps plan (past ++ [⟨r, .runner⟩]) r' d' := by
  have unstopped := keeps.stops_eq_nil (by rw [stage]; rfl)
  have unclosed := keeps.unclosed (by rw [stage]; rfl)
  have log : broker.log =
      r.world.broker.log ++ [.published plan.scenario.target.topic m result] := by
    cases answer
    rfl
  refine ⟨{ d with
    published := d.published ++ [(plan.scenario.target.topic, m, result)] }, ?_⟩
  constructor
  · rw [after, log, keeps.log]
    simp [Diary.log, unstopped, unclosed]
  · rw [joins_snoc, append_joined? _ (by simp [stage])]
    exact keeps.joined
  · exact fun rest starting => absurd starting (onward rest)
  · rw [torn]
    show d.stops.map _ = _
    rw [unstopped]
    rfl
  · intro stop member
    rw [unstopped] at member
    cases member
  · exact stopFailures.trans keeps.stopFailures
  · rw [closing, unclosed]
    rfl
  · exact closeFailure.trans keeps.closeFailure

theorem Keeps.close (keeps : Keeps plan past r d) (posts : Posts plan.logged r d.joined)
    (stage : r.stage = .closing)
    (taken : r.step plan.logged .runner = some (r.close plan.logged)) :
    ∃ d', Keeps plan (past ++ [⟨r, .runner⟩]) (r.close plan.logged) d' := by
  have unclosed := keeps.unclosed (by rw [stage]; rfl)
  refine ⟨{ d with closing := some (plan.client.close r.world.broker.broker).1 }, ?_⟩
  constructor
  · show r.world.broker.log ++ [.closed (plan.client.close r.world.broker.broker).1] = _
    rw [keeps.log]
    simp [Diary.log, unclosed]
  · rw [joins_snoc, append_joined? _ (by simp [stage])]
    exact keeps.joined
  · exact nofun
  · have stopped := keeps.stopped
    rw [stage] at stopped
    exact stopped
  · exact keeps.waited_later posts taken
  · exact keeps.stopFailures
  · rfl
  · show (match (plan.client.close r.world.broker.broker).1 with
      | .ok () => none
      | .error e => some e) = _
    cases (plan.client.close r.world.broker.broker).1 <;> rfl

/-- A worker that has been waited for gives its subscription back. -/
theorem Keeps.finishStop (keeps : Keeps plan past r d) (roster : Roster plan.logged r)
    (posts : Posts plan.logged r d.joined) {index : Nat} {w w' : Worker} {outcome : StopOutcome}
    (leaver : r.stage.leaver? = some index) (torn : r.stage.torn r.workers.length = index)
    (there : r.workers[index]? = some w)
    (same : w'.spec = w.spec ∧ w'.ticket = w.ticket ∧ w'.stopTimeout = w.stopTimeout)
    (taken : r.step plan.logged .runner = some (r.finishStop plan.logged index w' outcome))
    (unclosed : d.closing = none)
    (waited : ∀ stop : Stop, stop.place = index → stop.outcome = outcome →
      Waited (past ++ [⟨r, .runner⟩]) (r.finishStop plan.logged index w' outcome) stop) :
    ∃ d', Keeps plan (past ++ [⟨r, .runner⟩])
      (r.finishStop plan.logged index w' outcome) d' := by
  obtain ⟨_, join, stands⟩ := posts.exists_at there
  rw [post_of_leaver leaver torn, if_neg (Nat.lt_irrefl index), if_pos rfl] at stands
  cases stands with
  | @leaves ticket _ _ held =>
  have started : (plan.scenario.workers.zip d.joined)[index]? = some (w.spec, .ok ticket) :=
    List.getElem?_zip_eq_some.2 ⟨roster.spec_at there, join⟩
  have patience := posts.stopTimeout w (List.mem_of_getElem? there)
  obtain ⟨spec, ticket', timeout⟩ := same
  have finished := finishStop_of_ticket plan.logged r index
    (ticket'.trans held) outcome
  let stop : Stop :=
    ⟨⟨index, w.spec.name, ticket⟩, outcome,
      (plan.client.unsubscribe ticket r.world.broker.broker).1⟩
  refine ⟨{ d with stops := d.stops ++ [stop] }, ?_⟩
  constructor
  · rw [finished]
    show r.world.broker.log ++ [.unsubscribed ticket stop.returned] = _
    rw [keeps.log]
    simp [Diary.log, unclosed, stop]
  · have other : ∀ spec rest, r.stage ≠ .starting (spec :: rest) := by
      intro spec rest stage
      rw [stage] at leaver
      cases leaver
    rw [joins_snoc, append_joined? _ other]
    exact keeps.joined
  · exact nofun
  · show (d.stops ++ [stop]).map Stop.toSeat = seats (List.take (index + 1) _)
    rw [List.map_append, keeps.stopped, torn, seats_take_succ started]
    rfl
  · intro other member
    rcases List.mem_append.1 member with old | new
    · exact keeps.waited_later posts taken other old
    · obtain rfl := List.mem_singleton.1 new
      exact waited stop rfl rfl
  · rw [finished]
    show r.stopFailures ++ Crew.failureOf (Worker.stopVerdict w'.spec.name
      (Stop.reasons w'.stopTimeout ⟨⟨index, w'.spec.name, ticket⟩, outcome, stop.returned⟩)) = _
    rw [Stop.failures_snoc, keeps.stopFailures, spec, timeout, patience]
    rfl
  · rw [unclosed]
    rfl
  · exact keeps.closeFailure

/-- A worker whose stop involves no wait has no subscription. -/
theorem Posts.join_of_marked {results : List (Except BrokerError Ticket)}
    (posts : Posts plan.logged r results) {index : Nat} {w w' : Worker}
    (stage : r.stage = .stopping index) (there : r.workers[index]? = some w)
    (marked : w.beginStop = (false, w')) : ∃ e, results[index]? = some (.error e) := by
  obtain ⟨_, join, stands⟩ := posts.exists_at there
  rw [stage, post_stopping, if_neg (Nat.lt_irrefl index)] at stands
  cases stands with
  | serves state =>
      unfold Worker.beginStop at marked
      rw [state] at marked
      cases marked
  | idles => exact ⟨_, join⟩

theorem Keeps.turn (keeps : Keeps plan past r d) (through : Through plan.logged ⟨broker, []⟩ past r)
    (taken : r.step plan.logged .runner = some r') :
    ∃ d', Keeps plan (past ++ [⟨r, .runner⟩]) r' d' := by
  have posts : Posts plan.logged r d.joined := keeps.joined ▸ through.posts
  have roster := through.reachable.roster
  cases runnerStep_turn taken with
  | startedOne stage => exact keeps.startWorker stage
  | startFailed stage | startedAll stage | settled stage | publishFailed stage
  | publishedAll stage | metAll stage | metSome stage | timedOut stage | overflowed stage
  | violated stage | verified stage | judged stage =>
      exact ⟨d, keeps.calm posts taken rfl (joined?_eq_none (by simp [stage])) nofun
        (by rw [stage]; rfl) rfl (by rw [stage]; rfl) rfl⟩
  | published stage answer =>
      exact keeps.publish stage answer rfl rfl nofun rfl rfl rfl
  | publishRefused stage _ answer =>
      exact keeps.publish stage answer rfl rfl nofun rfl rfl rfl
  | publishNoted stage _ answer =>
      exact keeps.publish stage answer rfl rfl nofun rfl rfl rfl
  | @stoppedAll index stage nobody =>
      -- both cuts are at the end or beyond it, so they take all seats
      have beyond : r.workers.length ≤ index := List.getElem?_eq_none_iff.1 nobody
      have few : (plan.scenario.workers.zip d.joined).length ≤ r.workers.length := by
        rw [List.length_zip, posts.length]
        exact Nat.min_le_right _ _
      refine ⟨d, keeps.calm posts taken rfl (joined?_eq_none (by simp [stage])) nofun ?_ rfl
        (by rw [stage]; rfl) rfl⟩
      show seats (List.take r.workers.length _) = _
      rw [stage, List.take_of_length_le few]
      exact congrArg seats (List.take_of_length_le (Nat.le_trans few beyond)).symm
  | @marked index w w' stage there marked =>
      obtain ⟨e, join⟩ := posts.join_of_marked stage there marked
      have started : (plan.scenario.workers.zip d.joined)[index]? = some (w.spec, .error e) :=
        List.getElem?_zip_eq_some.2 ⟨roster.spec_at there, join⟩
      refine ⟨d, keeps.calm posts taken rfl (joined?_eq_none (by simp [stage])) nofun ?_ rfl
        (by rw [stage]; rfl) rfl⟩
      show seats (List.take (index + 1) _) = _
      rw [seats_take_succ started, stage]
      exact List.append_nil _
  | asked stage =>
      exact ⟨d, keeps.calm posts taken rfl (joined?_eq_none (by simp [stage])) nofun
        (by rw [stage]; rfl) rfl (by rw [stage]; rfl) rfl⟩
  | @ended index w ending stage there ended =>
      refine keeps.finishStop roster posts (by rw [stage]; rfl) (by rw [stage]; rfl) there
        ⟨rfl, rfl, rfl⟩ taken (keeps.unclosed (by rw [stage]; rfl)) ?_
      exact fun _ => through.waited_of_ended stage there ended
  | @endedLate index w ending stage there =>
      refine keeps.finishStop roster posts (by rw [stage]; rfl) (by rw [stage]; rfl) there
        ⟨rfl, rfl, rfl⟩ taken (keeps.unclosed (by rw [stage]; rfl)) ?_
      exact fun _ => through.waited_of_abandoning stage
  | @aborted index w w' stage there _ aborted =>
      obtain ⟨l, rfl, -⟩ := Worker.exists_of_abort? aborted
      refine keeps.finishStop roster posts (by rw [stage]; rfl) (by rw [stage]; rfl) there
        ⟨rfl, rfl, rfl⟩ taken (keeps.unclosed (by rw [stage]; rfl)) ?_
      exact fun _ => through.waited_of_abandoning stage
  | closed stage => exact keeps.close posts stage taken
  | reported stage =>
      exact ⟨d, keeps.calm posts taken rfl (joined?_eq_none (by simp [stage])) nofun
        (by rw [stage]; rfl) rfl (by rw [stage]; rfl) rfl⟩

theorem Keeps.step (keeps : Keeps plan past r d) (through : Through plan.logged ⟨broker, []⟩ past r)
    (taken : r.step plan.logged s = some r') : ∃ d', Keeps plan (past ++ [⟨r, s⟩]) r' d' := by
  have posts : Posts plan.logged r d.joined := keeps.joined ▸ through.posts
  cases s with
  | runner => exact keeps.turn through taken
  | worker index =>
      rcases workerStep_move taken with ⟨w, l, l', world, there, loop, move, rfl⟩
      refine ⟨d, keeps.calm posts taken move.log rfl (fun _ stage => stage) ?_ rfl rfl rfl⟩
      show seats (List.take (r.stage.torn (r.workers.set index _).length) _) = _
      rw [List.length_set]
  | timeout =>
      rcases timeoutStep_cases taken with ⟨unmet, stage, -, rfl⟩ | ⟨index, w, stage, there, -, rfl⟩
      · exact ⟨d, keeps.calm posts taken rfl rfl nofun (by rw [stage]; rfl) rfl
          (by rw [stage]; rfl) rfl⟩
      · exact ⟨d, keeps.calm posts taken rfl rfl nofun (by rw [stage]; rfl) rfl
          (by rw [stage]; rfl) rfl⟩
  | gate name =>
      cases taken
      exact ⟨d, keeps.calm posts rfl rfl rfl (fun _ stage => stage) rfl rfl rfl rfl⟩
  | broker =>
      cases taken
      exact ⟨d, keeps.calm posts rfl rfl rfl (fun _ stage => stage) rfl rfl rfl rfl⟩

/-- Every run keeps a diary. -/
theorem Through.keeps (through : Through plan.logged ⟨broker, []⟩ past r) :
    ∃ d, Keeps plan past r d := by
  induction through with
  | initial =>
      refine ⟨{}, ?_⟩
      constructor
      · rfl
      · rfl
      · exact fun _ _ => rfl
      · rfl
      · exact nofun
      · rfl
      · rfl
      · rfl
  | step s through taken ih =>
      obtain ⟨d, keeps⟩ := ih
      exact keeps.step through taken

end Step

end Run

end DeliveryBench
