import DeliveryBench.Proofs.Run.Diary
import DeliveryBench.Worker.Life

/-!
# What can happen to a worker

`Worker.Happening` says once what an event can be: what it makes of the worker and of the world,
what it asks of the broker, and what it answers. Where a worker stands follows from what its handle
has asked of the broker so far (`Worker.Stands`), and every event keeps this up
(`Stands.happening`).
-/

namespace DeliveryBench

variable {σ : Type}

/-- The ways in which the state of a worker changes. -/
inductive WorkerState.Onward : WorkerState → WorkerState → Prop
  | started : Onward .created .running
  | refused : Onward .created .failed
  | dismissed : Onward .created .stopped
  | stopped : Onward .running .stopped
  | writtenOff : Onward .failed .stopped

theorem WorkerState.Onward.ne_created {state state' : WorkerState} (onward : state.Onward state') :
    state' ≠ .created := by
  cases onward <;> nofun

theorem WorkerState.Onward.ne_stopped {state state' : WorkerState} (onward : state.Onward state') :
    state ≠ .stopped := by
  cases onward <;> nofun

namespace Worker

open Run (windsDown_beginStop)

variable {client : Client σ} {w w' : Worker} {world world' : World σ} {event : Event σ}

/-! ## What an event can be -/

theorem start_of_ok {target : Target} {ticket : Ticket} {broker broker' : σ}
    (state : w.state = .created) (whole : w.hasLoop = true)
    (ok : client.subscribe target broker = (.ok ticket, broker')) :
    w.start client target broker = (.ok (), Run.attached w.spec w.stopTimeout ticket, broker') := by
  unfold start
  rw [if_neg (by simp [state]), if_neg (by simp [whole]), ok]
  rfl

theorem start_of_error {target : Target} {e : BrokerError} {broker broker' : σ}
    (state : w.state = .created) (whole : w.hasLoop = true)
    (error : client.subscribe target broker = (.error e, broker')) :
    w.start client target broker =
      (.error (.start w.spec.name e), { w with state := .failed, hasLoop := false }, broker') := by
  unfold start
  rw [if_neg (by simp [state]), if_neg (by simp [whole]), error]

theorem start_of_other (target : Target) (broker : σ) (state : w.state ≠ .created) :
    w.start client target broker =
      (.error (.invalidState
        ("worker `" ++ w.spec.name ++ "` cannot start from state " ++ w.state.name)),
        w, broker) := by
  unfold start
  rw [if_pos state]

theorem start_of_hollow (target : Target) (broker : σ) (state : w.state = .created)
    (hollow : w.hasLoop = false) :
    w.start client target broker =
      (.error (.invalidState ("worker `" ++ w.spec.name ++ "` has no delivery loop")),
        w, broker) := by
  unfold start
  rw [if_neg (by simp [state]), if_pos hollow]

/-- What an event asks of the broker, what it answers, and what it makes of the worker and of the
world. -/
inductive Happening (client : Client σ) (w : Worker) (world : World σ) :
    Event σ → List Deed → Option (Except Failure Unit) → Worker → World σ → Prop
  | joined {target : Target} {ticket : Ticket} {broker : σ} : w.state = .created →
    w.hasLoop = true → client.subscribe target world.broker = (.ok ticket, broker) →
    Happening client w world (.start target) [.subscribed (.ok ticket)] (some (.ok ()))
      (Run.attached w.spec w.stopTimeout ticket) (world.withBroker broker)
  | turnedAway {target : Target} {e : BrokerError} {broker : σ} : w.state = .created →
    w.hasLoop = true → client.subscribe target world.broker = (.error e, broker) →
    Happening client w world (.start target) [.subscribed (.error e)]
      (some (.error (.start w.spec.name e))) { w with state := .failed, hasLoop := false }
      (world.withBroker broker)
  | refused {target : Target} : w.state ≠ .created →
    Happening client w world (.start target) []
      (some (.error (.invalidState
        ("worker `" ++ w.spec.name ++ "` cannot start from state " ++ w.state.name)))) w world
  | hollow {target : Target} : w.state = .created → w.hasLoop = false →
    Happening client w world (.start target) []
      (some (.error (.invalidState ("worker `" ++ w.spec.name ++ "` has no delivery loop"))))
      w world
  | moved {l l' : Loop} {world' : World σ} : w.loop = some l →
    Loop.Move client l world l' world' →
    Happening client w world .step [] none { w with loop := some l' } world'
  | asked {w' : Worker} : w.beginStop = (true, w') → Happening client w world .ask [] none w' world
  /-- There is no loop to wait for. -/
  | marked {w' : Worker} : w.isParting = false → w.beginStop = (false, w') →
    Happening client w world .ask [] (some (.ok ())) w' world
  | aborted {w' : Worker} : w.abort? = some w' → Happening client w world .abort [] none w' world
  | parted {ticket : Ticket} {ending : Ending} {outcome : StopOutcome} : w.state = .stopped →
    w.ticket = some ticket → w.ending? = some ending → outcome.fits (some ending) = true →
    Happening client w world (.part outcome)
      [.unsubscribed ticket (client.unsubscribe ticket world.broker).1]
      (some (w.finishStop client outcome world.broker).1) { w with ticket := none }
      (world.withBroker (client.release ticket (client.unsubscribe ticket world.broker).2))
  | elsewhere {doing : Elsewhere σ} : doing.recorder? ≠ some w.spec.name →
    Happening client w world (.others doing) [] none w (doing.apply world)

theorem isParting_iff :
    w.isParting = true ↔ w.state = .stopped ∧ ∃ ticket, w.ticket = some ticket := by
  rw [isParting, Bool.and_eq_true, beq_iff_eq, Option.isSome_iff_exists]

/-- Only a loop that has ended is not waited for any longer. -/
theorem exists_of_fits {outcome : StopOutcome} {ending : Option Ending}
    (fits : outcome.fits ending = true) : ∃ ending', ending = some ending' := by
  cases outcome with
  | ended ending' => exact ⟨ending', beq_iff_eq.1 fits⟩
  | timedOut => exact Option.isSome_iff_exists.1 fits

theorem happening_start {target : Target}
    (taken : w.happen client world (.start target) = some (w', world')) :
    Happening client w world (.start target) (Moment.deeds client ⟨w, world, .start target⟩)
      (Moment.answer? client ⟨w, world, .start target⟩) w' world' := by
  unfold happen at taken
  unfold Moment.deeds Moment.answer?
  dsimp only at taken ⊢
  split at taken
  · cases taken
  · by_cases state : w.state = .created
    · cases whole : w.hasLoop with
      | false =>
          rw [start_of_hollow _ _ state whole] at taken
          rw [start_of_hollow _ _ state whole, start_of_hollow _ _ state whole]
          cases taken
          exact .hollow state whole
      | true =>
          generalize answer : client.subscribe target world.broker = result
          obtain ⟨join, broker⟩ := result
          have logged : client.logged.subscribe target ⟨world.broker, []⟩ =
              (join, ⟨broker, [.subscribed join]⟩) := by
            simp only [Client.logged, answer, List.nil_append]
          cases join with
          | ok ticket =>
              rw [start_of_ok state whole answer] at taken
              rw [start_of_ok state whole logged, start_of_ok state whole answer]
              cases taken
              exact .joined state whole answer
          | error e =>
              rw [start_of_error state whole answer] at taken
              rw [start_of_error state whole logged, start_of_error state whole answer]
              cases taken
              exact .turnedAway state whole answer
    · rw [start_of_other _ _ state] at taken
      rw [start_of_other _ _ state, start_of_other _ _ state]
      cases taken
      exact .refused state

theorem happening_part {outcome : StopOutcome}
    (taken : w.happen client world (.part outcome) = some (w', world')) :
    Happening client w world (.part outcome) (Moment.deeds client ⟨w, world, .part outcome⟩)
      (Moment.answer? client ⟨w, world, .part outcome⟩) w' world' := by
  unfold happen at taken
  dsimp only at taken
  split at taken
  · rename_i due
    rw [Bool.and_eq_true, isParting_iff] at due
    obtain ⟨⟨state, ticket, held⟩, fits⟩ := due
    obtain ⟨ending, ended⟩ := exists_of_fits fits
    rw [finishStop_of_ticket 0 held] at taken
    have deeds : Moment.deeds client ⟨w, world, .part outcome⟩ =
        [.unsubscribed ticket (client.unsubscribe ticket world.broker).1] := by
      show (w.finishStop client.logged outcome ⟨world.broker, []⟩).2.2.log = _
      rw [finishStop_of_ticket 0 held]
      rfl
    rw [deeds]
    cases taken
    exact .parted state held ended (ended ▸ fits)
  · cases taken

/-- Whatever happens is one of these. -/
theorem happening_of_happen (taken : w.happen client world event = some (w', world')) :
    Happening client w world event (Moment.deeds client ⟨w, world, event⟩)
      (Moment.answer? client ⟨w, world, event⟩) w' world' := by
  cases event with
  | start target => exact happening_start taken
  | part outcome => exact happening_part taken
  | step =>
      change w.step client world = some (w', world') at taken
      unfold step at taken
      split at taken
      · cases taken
      · rename_i l loop
        rcases Option.map_eq_some_iff.1 taken with ⟨⟨l', world''⟩, moved, same⟩
        cases same
        exact .moved loop (Loop.step_move moved)
  | ask =>
      unfold happen at taken
      dsimp only at taken
      split at taken
      · cases taken
      · rename_i free
        rw [Bool.not_eq_true] at free
        generalize begun : w.beginStop = result at taken
        obtain ⟨waits, w''⟩ := result
        cases taken
        cases waits with
        | true =>
            have silent : Moment.answer? client ⟨w, world, .ask⟩ = none := by
              simp [Moment.answer?, begun]
            rw [silent]
            exact .asked begun
        | false =>
            have answer : Moment.answer? client ⟨w, world, .ask⟩ = some (.ok ()) := by
              simp [Moment.answer?, begun]
            rw [answer]
            exact .marked free begun
  | abort =>
      rcases Option.map_eq_some_iff.1 taken with ⟨w'', aborted, same⟩
      cases same
      exact .aborted aborted
  | others doing =>
      unfold happen at taken
      dsimp only at taken
      split at taken
      · cases taken
      · rename_i other
        cases taken
        exact .elsewhere other

/-! ## Where a worker stands -/

/-- How a worker is found whose handle has asked this of its broker. -/
inductive Stands (w : Worker) : List Deed → Prop
  | created : w.state = .created → w.hasLoop = true → w.ticket = none → w.loop = none → Stands w []
  /-- It has been stopped without having been started. -/
  | dismissed : w.state = .stopped → w.ticket = none → w.loop = none → Stands w []
  | serving {join : Except BrokerError Ticket} : w.At .serving join → Stands w [.subscribed join]
  | leaving {ticket : Ticket} : w.At .leaving (.ok ticket) → Stands w [.subscribed (.ok ticket)]
  | left {ticket : Ticket} {returned : Except BrokerError Unit} : w.At .left (.ok ticket) →
    Stands w [.subscribed (.ok ticket), .unsubscribed ticket returned]
  /-- It has been stopped without having got a subscription. -/
  | writtenOff {e : BrokerError} : w.At .left (.error e) → Stands w [.subscribed (.error e)]

variable {calls : List Deed} {post : Post} {join : Except BrokerError Ticket}

theorem At.state_of_serving (stands : w.At .serving join) :
    w.state = .running ∨ w.state = .failed := by
  cases stands with
  | serves state => exact .inl state
  | idles state => exact .inr state

theorem At.ne_stopped (stands : w.At .serving join) : w.state ≠ .stopped := by
  rcases stands.state_of_serving with state | state <;> simp [state]

theorem At.state_of_leaving (stands : w.At .leaving join) : w.state = .stopped := by
  cases stands with
  | leaves state => exact state

theorem At.ticket_of_left (stands : w.At .left join) : w.ticket = none := by
  cases stands with
  | left _ ticket | dismissed _ ticket => exact ticket

theorem Stands.of_created (stands : w.Stands calls) (state : w.state = .created) :
    calls = [] ∧ w.hasLoop = true ∧ w.ticket = none ∧ w.loop = none := by
  cases stands with
  | created _ whole ticket loop => exact ⟨rfl, whole, ticket, loop⟩
  | dismissed stopped => cases state.symm.trans stopped
  | serving stands =>
      rcases stands.state_of_serving with other | other <;> cases state.symm.trans other
  | leaving stands => cases state.symm.trans stands.state_of_leaving
  | left stands | writtenOff stands => cases state.symm.trans stands.stopped

/-- A worker with a loop has got a subscription. -/
theorem Stands.of_loop {l : Loop} (stands : w.Stands calls) (loop : w.loop = some l)
    (keeps : ∀ post ticket, w.At post (.ok ticket) → w'.At post (.ok ticket)) :
    w'.Stands calls := by
  cases stands with
  | created _ _ _ none | dismissed _ _ none => cases loop.symm.trans none
  | @serving join stands =>
      cases join with
      | ok ticket => exact .serving (keeps _ _ stands)
      | error e =>
          cases stands with
          | idles _ _ none => cases loop.symm.trans none
  | leaving stands => exact .leaving (keeps _ _ stands)
  | left stands => exact .left (keeps _ _ stands)
  | writtenOff stands =>
      cases stands with
      | dismissed _ _ none => cases loop.symm.trans none

theorem exists_loop_of_abort? (aborted : w.abort? = some w') :
    ∃ l, w.loop = some l ∧ (l.phase = .idle ∨ ∃ m reaction, l.phase = .handling m reaction) ∧
      w' = { w with loop := some { l with phase := .ended .aborted } } := by
  unfold abort? at aborted
  split at aborted
  · cases aborted
  · rename_i l loop
    rcases Option.map_eq_some_iff.1 aborted with ⟨l', ended, rfl⟩
    unfold Loop.abort? at ended
    split at ended
    · rename_i phase
      cases ended
      exact ⟨l, loop, .inl phase, rfl⟩
    · rename_i m reaction phase
      cases ended
      exact ⟨l, loop, .inr ⟨m, reaction, phase⟩, rfl⟩
    · cases ended

theorem At.abort {ticket : Ticket} (stands : w.At post (.ok ticket))
    (aborted : w.abort? = some w') : w'.At post (.ok ticket) := by
  obtain ⟨l, loop, waits, rfl⟩ := exists_loop_of_abort? aborted
  cases stands with
  | serves state held there goesOn =>
      obtain rfl := Option.some.inj (loop.symm.trans there)
      exact .serves state held rfl goesOn
  | leaves state held there asked =>
      obtain rfl := Option.some.inj (loop.symm.trans there)
      exact .leaves state held rfl asked
  | left state none there ended =>
      exact .left state none rfl rfl

theorem beginStop_eq_true (asked : w.beginStop = (true, w')) : w.state = .running := by
  unfold beginStop at asked
  split at asked
  · cases asked
  · cases asked
  · cases asked
  · assumption

theorem Stands.ask (stands : w.Stands calls) (asked : w.beginStop = (true, w')) :
    w'.Stands calls := by
  have running := beginStop_eq_true asked
  cases stands with
  | created other | dismissed other => cases running.symm.trans other
  | serving stands =>
      cases stands with
      | serves state held loop goesOn =>
          exact .leaving ((At.serves state held loop goesOn).ask asked)
      | idles other => cases running.symm.trans other
  | leaving stands => cases running.symm.trans stands.state_of_leaving
  | left stands | writtenOff stands => cases running.symm.trans stands.stopped

theorem Stands.mark (stands : w.Stands calls) (marked : w.beginStop = (false, w')) :
    w'.Stands calls := by
  have again (stopped : w.state = .stopped) : w' = w := by
    unfold beginStop at marked
    rw [stopped] at marked
    cases marked
    rfl
  cases stands with
  | created state _ ticket loop =>
      unfold beginStop at marked
      rw [state] at marked
      cases marked
      exact .dismissed rfl ticket loop
  | dismissed state ticket loop =>
      obtain rfl := again state
      exact .dismissed state ticket loop
  | serving stands =>
      have left := stands.mark marked
      cases stands with
      | serves state =>
          unfold beginStop at marked
          rw [state] at marked
          cases marked
      | idles => exact .writtenOff left
  | leaving stands =>
      obtain rfl := again stands.state_of_leaving
      exact .leaving stands
  | left stands =>
      obtain rfl := again stands.stopped
      exact .left stands
  | writtenOff stands =>
      obtain rfl := again stands.stopped
      exact .writtenOff stands

theorem Stands.part {ticket : Ticket} {ending : Ending} (stands : w.Stands calls)
    (state : w.state = .stopped) (held : w.ticket = some ticket) (ended : w.ending? = some ending)
    (returned : Except BrokerError Unit) :
    calls = [.subscribed (.ok ticket)] ∧
      Stands { w with ticket := none } (calls ++ [.unsubscribed ticket returned]) := by
  cases stands with
  | created _ _ none | dismissed _ none => cases held.symm.trans none
  | serving stands => exact absurd state stands.ne_stopped
  | @leaving ticket' stands =>
      obtain ⟨l, loop, phase⟩ := exists_of_ending? ended
      have left := stands.leave rfl ⟨l, ending, loop, phase⟩
      cases stands with
      | leaves _ held' =>
          obtain rfl := Option.some.inj (held.symm.trans held')
          exact ⟨rfl, .left left⟩
  | left stands | writtenOff stands => cases held.symm.trans stands.ticket_of_left

/-- Every event keeps it up. -/
theorem Stands.happening {new : List Deed} {answer : Option (Except Failure Unit)}
    (stands : w.Stands calls) (happening : Happening client w world event new answer w' world') :
    w'.Stands (calls ++ new) := by
  cases happening with
  | joined state =>
      obtain ⟨rfl, -⟩ := stands.of_created state
      exact .serving (Run.attached_at _ _ _)
  | turnedAway state =>
      obtain ⟨rfl, -, ticket, loop⟩ := stands.of_created state
      exact .serving (.idles rfl ticket loop)
  | refused | hollow | elsewhere => rwa [List.append_nil]
  | moved loop move =>
      rw [List.append_nil]
      exact stands.of_loop loop fun _ _ stands => stands.move loop move
  | asked asked =>
      rw [List.append_nil]
      exact stands.ask asked
  | marked _ marked =>
      rw [List.append_nil]
      exact stands.mark marked
  | aborted aborted =>
      rw [List.append_nil]
      obtain ⟨l, loop, -⟩ := exists_loop_of_abort? aborted
      exact stands.of_loop loop fun _ _ stands => stands.abort aborted
  | parted state held ended => exact (stands.part state held ended _).2

/-- A worker without a subscription has nothing to give back. -/
theorem Stands.ticket_of_mark (stands : w.Stands calls) (free : w.isParting = false)
    (marked : w.beginStop = (false, w')) : w'.state = .stopped ∧ w'.ticket = none := by
  unfold beginStop at marked
  split at marked
  · rename_i state
    cases marked
    refine ⟨state, ?_⟩
    unfold isParting at free
    rw [state] at free
    exact Option.isNone_iff_eq_none.1 (by simpa using free)
  · rename_i state
    cases marked
    exact ⟨rfl, (stands.of_created state).2.2.1⟩
  · rename_i state
    cases marked
    refine ⟨rfl, ?_⟩
    cases stands with
    | created other | dismissed other => cases state.symm.trans other
    | serving stands =>
        cases stands with
        | serves other => cases state.symm.trans other
        | idles _ ticket => exact ticket
    | leaving stands => cases state.symm.trans stands.state_of_leaving
    | left stands | writtenOff stands => cases state.symm.trans stands.stopped
  · cases marked

/-! ## One event -/

section Happening

variable {new : List Deed} {answer : Option (Except Failure Unit)}

theorem Happening.same (happening : Happening client w world event new answer w' world') :
    w'.spec = w.spec ∧ w'.stopTimeout = w.stopTimeout := by
  cases happening with
  | joined | turnedAway | refused | hollow | moved | parted | elsewhere => exact ⟨rfl, rfl⟩
  | asked begun | marked _ begun =>
      have calm := windsDown_beginStop w
      have timeout := beginStop_stopTimeout w
      rw [begun] at calm timeout
      exact ⟨calm.spec, timeout⟩
  | aborted aborted =>
      obtain ⟨l, -, -, rfl⟩ := exists_loop_of_abort? aborted
      exact ⟨rfl, rfl⟩

theorem beginStop_state (w : Worker) : w.beginStop.2.state = .stopped := by
  unfold beginStop
  split
  · assumption
  · rfl
  · rfl
  · rfl

theorem Happening.onward (happening : Happening client w world event new answer w' world') :
    w'.state = w.state ∨ w.state.Onward w'.state := by
  cases happening with
  | joined state =>
      rw [state]
      exact .inr .started
  | turnedAway state =>
      rw [state]
      exact .inr .refused
  | refused | hollow | moved | parted | elsewhere => exact .inl rfl
  | asked begun | marked _ begun =>
      have stopped := beginStop_state w
      rw [begun] at stopped
      rw [show w'.state = .stopped from stopped]
      cases w.state with
      | created => exact .inr .dismissed
      | running => exact .inr .stopped
      | failed => exact .inr .writtenOff
      | stopped => exact .inl rfl
  | aborted aborted =>
      obtain ⟨l, -, -, rfl⟩ := exists_loop_of_abort? aborted
      exact .inl rfl

theorem Happening.of_part {outcome : StopOutcome}
    (happening : Happening client w world (.part outcome) new answer w' world') :
    ∃ ticket ending, w.state = .stopped ∧ w.ticket = some ticket ∧ w.ending? = some ending ∧
      outcome.fits (some ending) = true ∧
      new = [.unsubscribed ticket (client.unsubscribe ticket world.broker).1] ∧
      answer = some (w.finishStop client outcome world.broker).1 ∧
      w' = { w with ticket := none } := by
  cases happening with
  | parted state held ended fits => exact ⟨_, _, state, held, ended, fits, rfl, rfl, rfl⟩

/-- Once a stop has come to its end, nothing happens to the handle any more. -/
theorem Happening.over (happening : Happening client w world event new answer w' world')
    (stopped : w.state = .stopped) (given : w.ticket = none) :
    w'.state = .stopped ∧ w'.ticket = none := by
  cases happening with
  | joined state | turnedAway state => cases state.symm.trans stopped
  | refused | hollow | moved | elsewhere => exact ⟨stopped, given⟩
  | asked begun => cases (beginStop_eq_true begun).symm.trans stopped
  | marked _ begun =>
      unfold beginStop at begun
      rw [stopped] at begun
      cases begun
      exact ⟨stopped, given⟩
  | aborted aborted =>
      obtain ⟨l, -, -, rfl⟩ := exists_loop_of_abort? aborted
      exact ⟨stopped, given⟩
  | parted _ held => cases held.symm.trans given

end Happening

end Worker

end DeliveryBench
