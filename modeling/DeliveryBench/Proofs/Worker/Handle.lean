import DeliveryBench.Proofs.Run.Teardown
import DeliveryBench.Proofs.Worker.Happening

/-!
# The handle of a worker

Whatever happens to a worker, its handle subscribes once and gives back what it has got, also where
the delivery loop has broken down or been given up. A start comes in time or is refused, a stop
comes to its end, and after that nothing changes any more (`Worker.handle_is_used_once`).
-/

namespace DeliveryBench

variable {σ : Type}

def Deed.isSubscribed : Deed → Bool
  | .subscribed _ => true
  | _ => false

namespace Worker

variable {client : Client σ} {w w' : Worker} {world world' : World σ} {event : Event σ}
  {calls : List Deed}

/-! ## A whole life -/

section Life

variable {first : World σ} {past : List (Moment σ)} {spec : WorkerSpec} {stopTimeout : Duration}

theorem deeds_snoc (client : Client σ) (past : List (Moment σ)) (x : Moment σ) :
    deeds client (past ++ [x]) = deeds client past ++ x.deeds client := by
  simp [deeds]

theorem Lives.same (lives : Lives client { spec, stopTimeout } first past w world) :
    w.spec = spec ∧ w.stopTimeout = stopTimeout := by
  induction lives with
  | here => exact ⟨rfl, rfl⟩
  | on event _ taken ih =>
      obtain ⟨same, same'⟩ := (happening_of_happen taken).same
      exact ⟨same.trans ih.1, same'.trans ih.2⟩

theorem Lives.stands (lives : Lives client { spec, stopTimeout } first past w world) :
    w.Stands (deeds client past) := by
  induction lives with
  | here => exact .created rfl rfl rfl rfl
  | on event _ taken ih =>
      rw [deeds_snoc]
      exact ih.happening (happening_of_happen taken)

theorem Moment.exists_of_isStop {x : Moment σ} (stop : x.isStop client = true) :
    ∃ answer, x.answer? client = some answer ∧
      (x.event = .ask ∨ ∃ outcome, x.event = .part outcome) := by
  unfold isStop at stop
  split at stop
  · rename_i event answer
    exact ⟨_, answer, .inl event⟩
  · rename_i event answer
    exact ⟨_, answer, .inr ⟨_, event⟩⟩
  · cases stop

/-- After a stop that has come to its end there is nothing left to give back. -/
theorem Lives.over (lives : Lives client { spec, stopTimeout } first past w world)
    (stop : ∃ x ∈ past, x.isStop client = true) : w.state = .stopped ∧ w.ticket = none := by
  induction lives with
  | here =>
      obtain ⟨x, member, -⟩ := stop
      cases member
  | @on past w w' world world' event lives taken ih =>
      have happening := happening_of_happen taken
      obtain ⟨x, member, stop⟩ := stop
      rcases List.mem_append.1 member with old | last
      · obtain ⟨stopped, given⟩ := ih ⟨x, old, stop⟩
        exact happening.over stopped given
      · obtain rfl := List.mem_singleton.1 last
        obtain ⟨answer, returns, asks | ⟨outcome, parts⟩⟩ := Moment.exists_of_isStop stop
        · obtain rfl : event = .ask := asks
          rw [returns] at happening
          cases happening with
          | marked free begun => exact lives.stands.ticket_of_mark free begun
        · obtain rfl : event = .part outcome := parts
          obtain ⟨ticket, ending, state, -, -, -, -, -, rfl⟩ := happening.of_part
          exact ⟨state, rfl⟩

/-- Every moment of a life has come about in the same life. -/
theorem Lives.exists_of_mem (lives : Lives client w world past w' world') {x : Moment σ}
    (member : x ∈ past) : ∃ earlier w'' world'', Lives client w world earlier x.before x.world ∧
      x.before.happen client x.world x.event = some (w'', world'') := by
  induction lives with
  | here => cases member
  | on event lives taken ih =>
      rcases List.mem_append.1 member with old | last
      · exact ih old
      · obtain rfl := List.mem_singleton.1 last
        exact ⟨_, _, _, lives, taken⟩

/-- A start that has succeeded has got a subscription. -/
theorem Lives.subscribed (lives : Lives client w world past w' world')
    (start : ∃ x ∈ past, x.isStart client = true) :
    ∃ ticket, .subscribed (.ok ticket) ∈ deeds client past := by
  obtain ⟨x, member, start⟩ := start
  obtain ⟨-, w'', world'', -, taken⟩ := lives.exists_of_mem member
  have happening : Happening client x.before x.world x.event (x.deeds client) (x.answer? client)
    w'' world'' := happening_of_happen taken
  unfold Moment.isStart at start
  split at start
  · rename_i target event answer
    rw [event, answer] at happening
    generalize new : x.deeds client = calls at happening
    cases happening with
    | @joined _ ticket =>
        refine ⟨ticket, List.mem_flatMap.2 ⟨x, member, ?_⟩⟩
        rw [new]
        exact List.mem_singleton_self _
  · cases start

/-- What the handle of a worker keeps to, after such a past and whatever comes next. -/
structure Handled (client : Client σ) (spec : WorkerSpec) (stopTimeout : Duration)
    (past : List (Moment σ)) (w : Worker) (world : World σ) : Prop where
  /-- The state only moves onward. -/
  moves : ∀ event w' world', w.happen client world event = some (w', world') →
    w'.state = w.state ∨ w.state.Onward w'.state
  subscribesOnce : (deeds client past).countP Deed.isSubscribed ≤ 1
  unsubscribesOnce : (deeds client past).countP Deed.isUnsubscribed ≤ 1
  /-- Whatever became of the loop. -/
  givesBack : (∃ x ∈ past, x.isStart client = true) → (∃ x ∈ past, x.isStop client = true) →
    (deeds client past).countP Deed.isUnsubscribed = 1
  /-- A handle that may start has a delivery loop. -/
  whole : w.state = .created → w.hasLoop = true
  starts : ∀ target w' world', w.happen client world (.start target) = some (w', world') →
    let x : Moment σ := ⟨w, world, .start target⟩
    w.state = .created →
      (∃ ticket, x.deeds client = [.subscribed (.ok ticket)] ∧ x.answer? client = some (.ok ()) ∧
        w'.state = .running) ∨
      ∃ e, x.deeds client = [.subscribed (.error e)] ∧
        x.answer? client = some (.error (.start spec.name e)) ∧ w'.state = .failed
  /-- A start at any other time changes nothing. -/
  refuses : ∀ target w' world', w.happen client world (.start target) = some (w', world') →
    let x : Moment σ := ⟨w, world, .start target⟩
    w.state ≠ .created →
      x.answer? client = some (.error (.invalidState
        ("worker `" ++ spec.name ++ "` cannot start from state " ++ w.state.name))) ∧
      x.deeds client = [] ∧ w' = w ∧ world' = world
  /-- The stop of a running worker goes on to wait for the loop; any other is over at once. -/
  asks : ∀ w' world', w.happen client world .ask = some (w', world') →
    let x : Moment σ := ⟨w, world, .ask⟩
    w'.state = .stopped ∧ world' = world ∧ x.deeds client = [] ∧
      x.answer? client = if w.state = .running then none else some (.ok ())
  /-- A stop that has waited for the loop gives the subscription back, and tells what is to be said
  against it, the loop first. -/
  parts : ∀ outcome w' world', w.happen client world (.part outcome) = some (w', world') →
    let x : Moment σ := ⟨w, world, .part outcome⟩
    w'.state = .stopped ∧ outcome.fits w.ending? = true ∧
      ∃ ticket returned, deeds client past = [.subscribed (.ok ticket)] ∧
      x.deeds client = [.unsubscribed ticket returned] ∧
      x.answer? client = some (
        if outcome = .ended .finished ∧ returned = .ok () then .ok ()
        else .error (.stop spec.name ("; ".intercalate ((loopReason stopTimeout outcome).toList ++
          ((BrokerError.ofResult? returned).map BrokerError.message).toList))))
  /-- Any further stop does nothing. -/
  again : (∃ x ∈ past, x.isStop client = true) → w.happen client world .ask = some (w, world) ∧
    w.state = .stopped ∧ (⟨w, world, .ask⟩ : Moment σ).deeds client = [] ∧
    (⟨w, world, .ask⟩ : Moment σ).answer? client = some (.ok ())
  /-- Unless a stop waits, the handle can be called. -/
  free : w.isParting = false → (w.happen client world .ask).isSome ∧
    ∀ target, (w.happen client world (.start target)).isSome
  /-- A stop that waits can come to its end without the help of others. -/
  ends : w.isParting = true → ∃ own outcome, own.length ≤ 3 ∧
    (∀ event ∈ own, event = .step ∨ event = .abort) ∧
    (w.happenAll client world (own ++ [.part outcome])).isSome

theorem Stands.countP_le (stands : w.Stands calls) :
    calls.countP Deed.isSubscribed ≤ 1 ∧ calls.countP Deed.isUnsubscribed ≤ 1 := by
  cases stands with
  | created | dismissed => exact ⟨Nat.zero_le 1, Nat.zero_le 1⟩
  | serving | leaving | writtenOff => exact ⟨Nat.le_refl 1, Nat.zero_le 1⟩
  | left => exact ⟨Nat.le_refl 1, Nat.le_refl 1⟩

/-- A stop waits for a loop. -/
theorem Stands.loop_of_parting (stands : w.Stands calls) (parting : w.isParting = true) :
    ∃ l, w.loop = some l := by
  obtain ⟨stopped, ticket, held⟩ := isParting_iff.1 parting
  cases stands with
  | created _ _ none | dismissed _ none => cases held.symm.trans none
  | serving stands => exact absurd stopped stands.ne_stopped
  | leaving stands =>
      cases stands with
      | leaves _ _ loop => exact ⟨_, loop⟩
  | left stands | writtenOff stands => cases held.symm.trans stands.ticket_of_left

/-- What has been got is given back before a stop comes to its end. -/
theorem Stands.countP_of_over {ticket : Ticket} (stands : w.Stands calls)
    (stopped : w.state = .stopped) (given : w.ticket = none)
    (got : .subscribed (.ok ticket) ∈ calls) : calls.countP Deed.isUnsubscribed = 1 := by
  cases stands with
  | created | dismissed => cases got
  | serving stands => exact absurd stopped stands.ne_stopped
  | leaving stands =>
      cases stands with
      | leaves _ held => cases held.symm.trans given
  | left => rfl
  | writtenOff => cases List.mem_singleton.1 got

theorem Happening.of_start {target : Target} {new : List Deed}
    {answer : Option (Except Failure Unit)} (state : w.state = .created) (whole : w.hasLoop = true)
    (happening : Happening client w world (.start target) new answer w' world') :
    (∃ ticket, new = [.subscribed (.ok ticket)] ∧ answer = some (.ok ()) ∧ w'.state = .running) ∨
      ∃ e, new = [.subscribed (.error e)] ∧ answer = some (.error (.start w.spec.name e)) ∧
        w'.state = .failed := by
  cases happening with
  | joined => exact .inl ⟨_, rfl, rfl, rfl⟩
  | turnedAway => exact .inr ⟨_, rfl, rfl, rfl⟩
  | refused other => exact absurd state other
  | hollow _ hollow => cases whole.symm.trans hollow

theorem Happening.of_refused {target : Target} {new : List Deed}
    {answer : Option (Except Failure Unit)} (state : w.state ≠ .created)
    (happening : Happening client w world (.start target) new answer w' world') :
    answer = some (.error (.invalidState
        ("worker `" ++ w.spec.name ++ "` cannot start from state " ++ w.state.name))) ∧
      new = [] ∧ w' = w ∧ world' = world := by
  cases happening with
  | joined other | turnedAway other | hollow other => exact absurd other state
  | refused => exact ⟨rfl, rfl, rfl, rfl⟩

theorem Happening.of_ask {new : List Deed} {answer : Option (Except Failure Unit)}
    (happening : Happening client w world .ask new answer w' world') :
    w'.state = .stopped ∧ world' = world ∧ new = [] ∧
      answer = if w.state = .running then none else some (.ok ()) := by
  have stopped := beginStop_state w
  cases happening with
  | asked begun =>
      rw [begun] at stopped
      exact ⟨stopped, rfl, rfl, (if_pos (beginStop_eq_true begun)).symm⟩
  | marked _ begun =>
      rw [begun] at stopped
      refine ⟨stopped, rfl, rfl, (if_neg ?_).symm⟩
      intro running
      unfold beginStop at begun
      rw [running] at begun
      cases begun

theorem finishStop_answer {ticket : Ticket} (held : w.ticket = some ticket) (outcome : StopOutcome)
    (broker : σ) :
    let returned := (client.unsubscribe ticket broker).1
    (w.finishStop client outcome broker).1 =
      if outcome = .ended .finished ∧ returned = .ok () then .ok ()
      else .error (.stop w.spec.name ("; ".intercalate
        ((loopReason w.stopTimeout outcome).toList ++
          ((BrokerError.ofResult? returned).map BrokerError.message).toList))) := by
  rw [finishStop_of_ticket 0 held]
  unfold stopVerdict
  rw [Stop.isEmpty_reasons]
  refine if_congr ?_ rfl rfl
  unfold Stop.isClean
  rw [Bool.and_eq_true, decide_eq_true_eq]
  refine and_congr_right fun _ => ?_
  cases (client.unsubscribe ticket broker).1 with
  | ok => exact iff_of_true rfl rfl
  | error e => exact iff_of_false nofun nofun

/-- Some steps of the loop, or its abort, bring a stop to its end. -/
def CanPart (client : Client σ) (w : Worker) (world : World σ) (most : Nat) : Prop :=
  ∃ own outcome, own.length ≤ most ∧ (∀ event ∈ own, event = .step ∨ event = .abort) ∧
    (w.happenAll client world (own ++ [.part outcome])).isSome

theorem CanPart.after {most : Nat} (event : Event σ) (can : CanPart client w' world' most)
    (taken : w.happen client world event = some (w', world'))
    (own : event = .step ∨ event = .abort) : CanPart client w world (most + 1) := by
  obtain ⟨events, outcome, few, owns, ends⟩ := can
  refine ⟨event :: events, outcome, Nat.succ_le_succ few, ?_, ?_⟩
  · intro other member
    rcases List.mem_cons.1 member with rfl | later
    · exact own
    · exact owns other later
  · show ((w.happen client world event).bind fun next =>
      next.1.happenAll client next.2 (events ++ [.part outcome])).isSome
    rw [taken]
    exact ends

theorem CanPart.more {fewer most : Nat} (can : CanPart client w world fewer) (le : fewer ≤ most) :
    CanPart client w world most := by
  obtain ⟨own, outcome, few, rest⟩ := can
  exact ⟨own, outcome, Nat.le_trans few le, rest⟩

theorem CanPart.step {l l' : Loop} {most : Nat}
    (can : CanPart client { w with loop := some l' } world' most)
    (stepped : l.step client world = some (l', world')) :
    CanPart client { w with loop := some l } world (most + 1) := by
  refine can.after .step ?_ (.inl rfl)
  show (l.step client world).map _ = _
  rw [stepped]
  rfl

variable {l : Loop}

theorem canPart_of_ended {ending : Ending} (parting : w.isParting = true)
    (ended : l.phase = .ended ending) : CanPart client { w with loop := some l } world 0 := by
  refine ⟨[], .ended ending, Nat.le_refl 0, nofun, ?_⟩
  have due : isParting { w with loop := some l } = true := parting
  have there : ending? { w with loop := some l } = some ending := by
    simp [ending?, Loop.ending?, ended]
  simp [happenAll, happen, due, there, StopOutcome.fits]

theorem canPart_of_waiting (parting : w.isParting = true)
    (waits : l.phase = .idle ∨ ∃ m reaction, l.phase = .handling m reaction) :
    CanPart client { w with loop := some l } world 1 := by
  have aborted : l.abort? = some { l with phase := .ended .aborted } := by
    unfold Loop.abort?
    rcases waits with phase | ⟨m, reaction, phase⟩ <;> rw [phase]
  have ends : CanPart client { w with loop := some { l with phase := .ended .aborted } } world 0 :=
    canPart_of_ended parting rfl
  refine ends.after .abort ?_ (.inr rfl)
  show (l.abort?.map _).map _ = _
  rw [aborted]
  rfl

theorem canPart_of_recorded {m : Message} (parting : w.isParting = true)
    (phase : l.phase = .recorded m) : CanPart client { w with loop := some l } world 2 :=
  (canPart_of_waiting parting (.inl rfl)).step (by unfold Loop.step; rw [phase])

theorem canPart_of_parting (parting : w.isParting = true) (l : Loop) :
    CanPart client { w with loop := some l } world 3 := by
  cases phase : l.phase with
  | idle => exact (canPart_of_waiting parting (.inl phase)).more (by decide)
  | handling m reaction =>
      exact (canPart_of_waiting parting (.inr ⟨m, reaction, phase⟩)).more (by decide)
  | observed m sequence verdict =>
      have stepped : l.step client world = some (l.recordFailure m sequence verdict world) := by
        unfold Loop.step
        rw [phase]
      generalize l.recordFailure m sequence verdict world = next at stepped
      obtain ⟨l', world'⟩ := next
      refine CanPart.step ?_ stepped
      cases Loop.step_move stepped with
      | collapsed => exact (canPart_of_ended parting rfl).more (by decide)
      | passed | failed => exact canPart_of_recorded parting rfl
      | stopped other | took other | deserted other | broke other | observed other
      | counted other => cases phase.symm.trans other
  | recorded m => exact (canPart_of_recorded parting phase).more (by decide)
  | ended ending => exact (canPart_of_ended parting phase).more (by decide)

theorem handle_is_used_once (lives : Lives client { spec, stopTimeout } first past w world) :
    Handled client spec stopTimeout past w world := by
  obtain ⟨rfl, rfl⟩ := lives.same
  have stands := lives.stands
  constructor
  · intro event w' world' taken
    exact (happening_of_happen taken).onward
  · exact stands.countP_le.1
  · exact stands.countP_le.2
  · intro start stop
    obtain ⟨ticket, got⟩ := lives.subscribed start
    obtain ⟨stopped, given⟩ := lives.over stop
    exact stands.countP_of_over stopped given got
  · exact fun state => (stands.of_created state).2.1
  · intro target w' world' taken x state
    exact (happening_of_happen taken).of_start state (stands.of_created state).2.1
  · intro target w' world' taken x state
    exact (happening_of_happen taken).of_refused state
  · intro w' world' taken x
    exact (happening_of_happen taken).of_ask
  · intro outcome w' world' taken x
    obtain ⟨ticket, ending, state, held, ended, fits, new, answer, rfl⟩ :=
      (happening_of_happen taken).of_part
    obtain ⟨got, -⟩ := stands.part state held ended (.ok ())
    exact ⟨state, ended ▸ fits, ticket, _, got, new,
      answer.trans (congrArg some (finishStop_answer held _ _))⟩
  · intro stop
    obtain ⟨stopped, given⟩ := lives.over stop
    simp [happen, isParting, beginStop, Moment.deeds, Moment.answer?, stopped, given]
  · intro busy
    simp [happen, busy]
  · intro parting
    obtain ⟨l, loop⟩ := stands.loop_of_parting parting
    have can : CanPart client { w with loop := some l } world 3 := canPart_of_parting parting l
    rwa [← loop] at can

end Life

/-- A worker whose handler waits at a gate that nobody opens. -/
def stuckSpec : WorkerSpec where
  name := "a"
  handler := some fun _ _ _ => { gate := some "never" }

def auditTarget : Target := ⟨⟨"orders", "audit"⟩, .shared⟩

/-- It is started twice, given a message, and stopped twice; the time runs out on it. -/
def stuckEvents : List (Event Broker) :=
  [.start auditTarget, .start auditTarget,
    .others (.dealt (((({} : Broker).subscribe auditTarget).2.publish "orders"
      ⟨.ofNat 0, "note", none⟩).2)),
    .step, .ask, .abort, .part .timedOut, .ask]

theorem handle_of_a_stuck_worker :
    let worker : Worker := { spec := stuckSpec, stopTimeout := .ofSecs 5 }
    let past := moments Broker.client worker { broker := {} } stuckEvents
    ∃ w world, Lives Broker.client worker { broker := {} } past w world ∧
      (∃ x ∈ past, x.isStart Broker.client = true) ∧ (∃ x ∈ past, x.isStop Broker.client = true) ∧
      (deeds Broker.client past).countP Deed.isUnsubscribed = 1 ∧
      w.happen Broker.client world .ask = some (w, world) := by
  intro worker past
  have come : (worker.happenAll Broker.client { broker := {} } stuckEvents).isSome = true := by
    decide +kernel
  obtain ⟨⟨w, world⟩, run⟩ := Option.isSome_iff_exists.1 come
  have lives : Lives Broker.client worker { broker := {} } past w world := Lives.here.all run
  have laws := handle_is_used_once lives
  have start : past.any (Moment.isStart Broker.client) = true := by decide +kernel
  have stop : past.any (Moment.isStop Broker.client) = true := by decide +kernel
  rw [List.any_eq_true] at start stop
  exact ⟨w, world, lives, start, stop, laws.givesBack start stop, (laws.again stop).1⟩

end Worker

end DeliveryBench
