import DeliveryBench.Proofs.Broker.Soundness

/-!
# Which calls fail

`Broker.Fails` lists all reasons for which a call fails, each with the error: three for a subscribe,
two for a publish, one for an unsubscribe, and none for anything else. A call fails if and only if
one of them applies (`Broker.failure?_eq_some_iff`), and then it has done nothing but to be counted,
if it was a subscribe (`Broker.call_of_failure?`).

The reasons speak of flags, marks and counters of the broker. `Moment.faults_after_eq` and its
neighbours say how a call moves each of them, and the lemmas about `Broker.after` read all of them
off the calls that there have been.

Caveat: attempts are counted without a bound here. A counter of 64 bits would go on from zero.
-/

namespace DeliveryBench

/-- The error that a call returns. -/
def Answer.failure? : Answer → Option BrokerError
  | .ticket (.error e) | .result (.error e) => some e
  | _ => none

/-- The reasons for which a call fails. -/
inductive Broker.Fails (b : Broker) : Call → BrokerError → Prop
  | closed {target : Target} : b.isClosed = true → b.Fails (.subscribe target) .closed
  | marked {target : Target} : b.isClosed = false → b.attempts + 1 ∈ b.faults.attempts →
    b.Fails (.subscribe target) (.subscribeFailed target.toAddress
      ("injected failure on attempt " ++ toString (b.attempts + 1)))
  /-- Somebody is attached there who wants another mode. -/
  | otherMode {target : Target} {g : Group} : b.isClosed = false →
    b.attempts + 1 ∉ b.faults.attempts → b.group? target.toAddress = some g →
    g.mode ≠ target.mode → g.consumers ≠ [] →
    b.Fails (.subscribe target) (.modeMismatch target.toAddress g.mode target.mode)
  | publishClosed {topic : String} {m : Message} : b.isClosed = true →
    b.Fails (.publish topic m) .closed
  | publishBroken {topic : String} {m : Message} : b.isClosed = false →
    b.faults.publish = true → b.Fails (.publish topic m) (.publishFailed topic "injected failure")
  | unsubscribeBroken {ticket : Ticket} : b.faults.unsubscribe = true →
    b.Fails (.unsubscribe ticket)
      (.unsubscribeFailed ticket.address.subscription "injected failure")

/-! ## Single calls -/

namespace Broker

variable {b : Broker} {e : BrokerError}

theorem subscribe_failure? (b : Broker) (target : Target) :
    (b.call (.subscribe target)).1.failure? = b.refusal? (b.attempts + 1) target := by
  cases refusal : b.refusal? (b.attempts + 1) target with
  | some e => simp [call, subscribe_of_refused refusal, Answer.failure?]
  | none => simp [call, subscribe_fst_ok refusal, Answer.failure?]

/-- A subscribe is turned away for the first reason that applies. -/
theorem refusal?_eq_some_iff {target : Target} :
    b.refusal? (b.attempts + 1) target = some e ↔ b.Fails (.subscribe target) e := by
  constructor
  · intro refusal
    unfold refusal? at refusal
    split at refusal
    · rename_i isClosed
      cases refusal
      exact .closed isClosed
    · rename_i isOpen
      rw [Bool.not_eq_true] at isOpen
      split at refusal
      · rename_i marked
        cases refusal
        exact .marked isOpen (List.contains_iff_mem.1 marked)
      · rename_i unmarked
        rw [List.contains_iff_mem] at unmarked
        split at refusal
        · cases refusal
        · rename_i g there
          split at refusal
          · rename_i refuses
            cases refusal
            simp only [Group.refuses, Bool.and_eq_true, bne_iff_ne, Bool.not_eq_true',
              List.isEmpty_eq_false_iff] at refuses
            exact .otherMode isOpen unmarked there refuses.1 refuses.2
          · cases refusal
  · intro fails
    cases fails with
    | closed isClosed => simp [refusal?, isClosed]
    | marked isOpen marked => simp [refusal?, isOpen, marked]
    | otherMode isOpen unmarked there unlike attached =>
        simp [refusal?, isOpen, unmarked, there, Group.refuses, unlike, attached]

/-- A call fails if and only if there is a reason for it. -/
theorem failure?_eq_some_iff {c : Call} : (b.call c).1.failure? = some e ↔ b.Fails c e := by
  cases c with
  | subscribe target =>
      rw [subscribe_failure?]
      exact refusal?_eq_some_iff
  | publish topic m =>
      constructor
      · intro failure
        cases isClosed : b.isClosed with
        | true =>
            simp only [call, publish, isClosed, if_true, Answer.failure?, Option.some.injEq]
              at failure
            subst failure
            exact .publishClosed isClosed
        | false =>
            cases broken : b.faults.publish with
            | true =>
                simp [call, publish, isClosed, broken, Answer.failure?] at failure
                subst failure
                exact .publishBroken isClosed broken
            | false => simp [call, publish, isClosed, broken, Answer.failure?] at failure
      · intro fails
        cases fails with
        | publishClosed isClosed => simp [call, publish, isClosed, Answer.failure?]
        | publishBroken isOpen broken => simp [call, publish, isOpen, broken, Answer.failure?]
  | unsubscribe ticket =>
      constructor
      · intro failure
        cases broken : b.faults.unsubscribe with
        | true =>
            simp [call, unsubscribe, broken, Answer.failure?] at failure
            subst failure
            exact .unsubscribeBroken broken
        | false => simp [call, unsubscribe, broken, Answer.failure?] at failure
      · intro fails
        cases fails with
        | unsubscribeBroken broken => simp [call, unsubscribe, broken, Answer.failure?]
  | close =>
      constructor
      · intro failure
        cases isClosed : b.isClosed <;> simp [call, close, isClosed, Answer.failure?] at failure
      · intro fails
        cases fails
  | receive ticket | release ticket | failAttempt attempt | failUnsubscribe fail
  | failPublish fail =>
      constructor
      · intro failure
        cases failure
      · intro fails
        cases fails

/-- A call that fails has done nothing but to be counted. -/
theorem call_of_failure? {c : Call} (failure : (b.call c).1.failure? = some e) :
    (b.call c).2 = { b with attempts := b.attempts + if c.isSubscribe then 1 else 0 } := by
  have fails := failure?_eq_some_iff.1 failure
  cases fails with
  | closed | marked | otherMode =>
      rw [subscribe_failure?] at failure
      exact congrArg Prod.snd (subscribe_of_refused failure)
  | @publishClosed topic m isClosed =>
      have same : (b.publish topic m).2 = b := by simp only [publish, if_pos isClosed]
      exact same
  | @publishBroken topic m isOpen broken =>
      have same : (b.publish topic m).2 = b := by simp [publish, isOpen, broken]
      exact same
  | @unsubscribeBroken ticket broken =>
      have same : (b.unsubscribe ticket).2 = b := by simp only [unsubscribe, if_pos broken]
      exact same

end Broker

/-! ## Flags, marks and counters -/

namespace Call

/-- The attempt that a call marks. -/
def marked? : Call → Option Nat
  | .failAttempt attempt => some attempt
  | _ => none

/-- How a call sets the switch that makes `publish` fail. -/
def publishSwitch? : Call → Option Bool
  | .failPublish fail => some fail
  | _ => none

/-- How a call sets the switch that makes `unsubscribe` fail. -/
def unsubscribeSwitch? : Call → Option Bool
  | .failUnsubscribe fail => some fail
  | _ => none

theorem marked?_eq_some_iff {c : Call} {attempt : Nat} :
    c.marked? = some attempt ↔ c = .failAttempt attempt := by
  cases c <;> simp [marked?]

end Call

namespace Moment

/-- A publish that succeeds. -/
def isPublication (x : Moment) : Bool :=
  match x.call with
  | .publish _ _ => x.answer.failure?.isNone
  | _ => false

/-- An unsubscribe that succeeds. -/
def isRelease (x : Moment) : Bool :=
  match x.call with
  | .unsubscribe _ => x.answer.failure?.isNone
  | _ => false

theorem faults_after_eq (x : Moment) :
    x.after.faults = {
      attempts := x.call.marked?.toList ++ x.before.faults.attempts
      unsubscribe := x.call.unsubscribeSwitch?.getD x.before.faults.unsubscribe
      publish := x.call.publishSwitch?.getD x.before.faults.publish } := by
  cases plain : x.call.isArrangement with
  | false =>
      rw [faults_after plain]
      obtain ⟨b, call⟩ := x
      cases call <;> first | rfl | cases plain
  | true =>
      obtain ⟨b, call⟩ := x
      cases call <;> first | rfl | cases plain

theorem published_after (x : Moment) :
    x.after.published = x.before.published + if x.isPublication then 1 else 0 := by
  obtain ⟨b, call⟩ := x
  cases call with
  | subscribe target => exact (congrArg Broker.published (b.subscribe_snd_eq target) :)
  | publish topic m =>
      show (b.publish topic m).2.published = b.published +
        if (Answer.result (b.publish topic m).1).failure?.isNone then 1 else 0
      unfold Broker.publish
      split
      · rfl
      · split <;> rfl
  | receive ticket => exact (congrArg Broker.published (b.receive_snd_eq ticket) :)
  | unsubscribe ticket => exact (congrArg Broker.published (b.unsubscribe_snd_eq ticket) :)
  | close => exact (congrArg Broker.published b.close_snd_eq :)
  | release ticket | failAttempt attempt | failUnsubscribe fail | failPublish fail => rfl

theorem released_after_eq (x : Moment) :
    x.after.released = x.before.released + if x.isRelease then 1 else 0 := by
  obtain ⟨b, call⟩ := x
  by_cases other : ∀ ticket, call ≠ .unsubscribe ticket
  · rw [released_after other]
    cases call <;> first | rfl | exact absurd rfl (other _)
  · obtain ⟨ticket, leaves⟩ := not_forall_not.1 other
    subst leaves
    show (b.unsubscribe ticket).2.released = b.released +
      if (Answer.result (b.unsubscribe ticket).1).failure?.isNone then 1 else 0
    unfold Broker.unsubscribe
    split <;> rfl

end Moment

/-! ## Read off the calls -/

namespace Broker

/-- A counter shows how often what it counts has happened. -/
theorem counter_after {counter : Broker → Nat} (counts : Moment → Bool)
    (step : ∀ x, counter x.after = counter x.before + if counts x then 1 else 0) (b : Broker)
    (calls : List Call) :
    counter (b.after calls) = counter b + (b.history calls).countP counts := by
  induction calls generalizing b with
  | nil => rfl
  | cons c rest ih =>
      show counter ((b.call c).2.after rest) = _
      have counted : counter (b.call c).2 = counter b + if counts ⟨b, c⟩ then 1 else 0 :=
        step ⟨b, c⟩
      rw [ih, counted, history, List.countP_cons, Nat.add_assoc, Nat.add_comm (List.countP _ _)]

theorem history_calls (b : Broker) (calls : List Call) :
    (b.history calls).map Moment.call = calls := by
  induction calls generalizing b with
  | nil => rfl
  | cons c rest ih => exact congrArg (c :: ·) (ih _)

theorem attempts_eq (calls : List Call) :
    (after {} calls).attempts = calls.countP Call.isSubscribe := by
  have counted := counter_after (fun x => x.call.isSubscribe) Moment.attempts_after {} calls
  rw [counted, Nat.zero_add]
  conv_rhs => rw [← history_calls {} calls, List.countP_map]
  rfl

/-- A switch is where it has been put last. -/
theorem switch_after (switch : Broker → Bool) {switch? : Call → Option Bool}
    (step : ∀ x : Moment, switch x.after = (switch? x.call).getD (switch x.before)) (b : Broker)
    (calls : List Call) :
    switch (b.after calls) = (calls.filterMap switch?).getLast?.getD (switch b) := by
  induction calls generalizing b with
  | nil => rfl
  | cons c rest ih =>
      show switch ((b.call c).2.after rest) = _
      have put : switch (b.call c).2 = (switch? c).getD (switch b) := step ⟨b, c⟩
      rw [ih, put, List.filterMap_cons]
      cases switch? c <;> simp [List.getLast?_cons]

theorem mem_marks_after_iff {b : Broker} {calls : List Call} {attempt : Nat} :
    attempt ∈ (b.after calls).faults.attempts ↔
      .failAttempt attempt ∈ calls ∨ attempt ∈ b.faults.attempts := by
  induction calls generalizing b with
  | nil => simp [after]
  | cons c rest ih =>
      have marked : (b.call c).2.faults.attempts = c.marked?.toList ++ b.faults.attempts :=
        congrArg Faults.attempts (Moment.faults_after_eq ⟨b, c⟩)
      show attempt ∈ ((b.call c).2.after rest).faults.attempts ↔ _
      rw [ih, marked, List.mem_append, Option.mem_toList, Call.marked?_eq_some_iff,
        List.mem_cons, or_left_comm, or_assoc, eq_comm (a := c)]

end Broker

/-- **Calls fail for their reasons and leave no trace.** After any calls to a new broker, the next
one fails if and only if one of the reasons of `Broker.Fails` applies, with the error that belongs
to it. One that fails leaves everything as it is, but a subscribe is counted as an attempt. Attempts
are counted whether they fail or not, and what is published and released only if it succeeds, each
by one. The reasons, in turn, go back to the calls before: `close` has been called, the number of
the attempt has been marked, or the switch has last been set to fail. -/
theorem Broker.calls_fail_for_reasons_and_leave_no_trace (calls : List Call) (c : Call) :
    let b := Broker.after {} calls
    let x : Moment := ⟨b, c⟩
    (∀ e, x.answer.failure? = some e ↔ b.Fails c e) ∧
      (∀ e, x.answer.failure? = some e →
        x.after = { b with attempts := b.attempts + if c.isSubscribe then 1 else 0 }) ∧
      x.after.attempts = b.attempts + (if c.isSubscribe then 1 else 0) ∧
      x.after.published = b.published + (if x.isPublication then 1 else 0) ∧
      x.after.released = b.released + (if x.isRelease then 1 else 0) ∧
      (b.isClosed = true ↔ .close ∈ calls) ∧
      (∀ attempt, attempt ∈ b.faults.attempts ↔ .failAttempt attempt ∈ calls) ∧
      b.faults.publish = (calls.filterMap Call.publishSwitch?).getLast?.getD false ∧
      b.faults.unsubscribe = (calls.filterMap Call.unsubscribeSwitch?).getLast?.getD false ∧
      b.attempts = calls.countP Call.isSubscribe ∧
      b.published = (Broker.history {} calls).countP Moment.isPublication ∧
      b.released = (Broker.history {} calls).countP Moment.isRelease := by
  intro b x
  refine ⟨fun e => failure?_eq_some_iff, fun e => call_of_failure?, x.attempts_after,
    x.published_after, x.released_after_eq, ?_, ?_, ?_, ?_, ?_, ?_, ?_⟩
  · exact isClosed_after_iff.trans (by simp)
  · intro attempt
    exact mem_marks_after_iff.trans (by simp)
  · exact switch_after (fun b => b.faults.publish)
      (fun x => congrArg Faults.publish x.faults_after_eq) {} calls
  · exact switch_after (fun b => b.faults.unsubscribe)
      (fun x => congrArg Faults.unsubscribe x.faults_after_eq) {} calls
  · exact attempts_eq calls
  · simpa using counter_after Moment.isPublication Moment.published_after {} calls
  · simpa using counter_after Moment.isRelease Moment.released_after_eq {} calls

/-- The second attempt has been marked, the third wants another mode, and the last comes too late. -/
example :
    let here : Address := ⟨"orders", "audit"⟩
    let calls : List Call := [.failAttempt 2, .subscribe ⟨here, .shared⟩, .subscribe ⟨here, .shared⟩,
      .subscribe ⟨here, .keyShared⟩, .close, .subscribe ⟨here, .shared⟩]
    (Broker.history {} calls).map (fun x => x.answer.failure?) = [none, none,
      some (.subscribeFailed here "injected failure on attempt 2"),
      some (.modeMismatch here .shared .keyShared), none, some .closed] := by
  decide

end DeliveryBench
