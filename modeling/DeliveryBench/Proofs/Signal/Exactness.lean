import DeliveryBench.Signal.History

/-!
# Signals count and wake exactly

At every moment of a signal, each wait on it stands as the signal and the clock have it
(`Waiter.Stands`): a pending wait has neither a signal that is complete nor a deadline that has
passed, a wait has only succeeded if the signal is complete, and only failed if the deadline has
come. Every event keeps this (`Happens.stands`), and none changes an answer (`Happens.becomes`).
What becomes of a wait follows from these two (`Leads.exact`).
-/

namespace DeliveryBench

/-! ## Waits -/

namespace Waiter

variable {answer : Bool} {count now : Nat} {w w' w'' : Waiter}

/-- The same wait later on: an answer is final. -/
structure Becomes (w w' : Waiter) : Prop where
  deadline : w'.deadline = w.deadline
  final : w.answer ≠ none → w' = w

theorem Becomes.refl (w : Waiter) : Becomes w w :=
  ⟨rfl, fun _ => rfl⟩

theorem Becomes.trans (becomes : Becomes w w') (becomes' : Becomes w' w'') : Becomes w w'' := by
  refine ⟨becomes'.deadline.trans becomes.deadline, fun answered => ?_⟩
  have same := becomes.final answered
  rw [becomes'.final (same ▸ answered), same]

/-- A wait as the signal and the clock allow it to be. -/
structure Stands (count now : Nat) (w : Waiter) : Prop where
  pending : w.answer = none → count ≠ 0 ∧ now ≤ w.deadline
  succeeded : w.answer = some true → count = 0
  failed : w.answer = some false → w.deadline ≤ now

/-- With the count at zero before its deadline, a wait has succeeded. -/
theorem Stands.succeeded_of_lt (stands : w.Stands count now)
    (none : count = 0) (early : now < w.deadline) : w.answer = some true := by
  cases answer : w.answer with
  | none => exact absurd none (stands.pending answer).1
  | some answer' =>
      cases answer' with
      | false => exact absurd (stands.failed answer) (Nat.not_le_of_lt early)
      | true => rfl

/-- With the count not at zero after its deadline, a wait has failed. -/
theorem Stands.failed_of_lt (stands : w.Stands count now)
    (missing : count ≠ 0) (late : w.deadline < now) : w.answer = some false := by
  cases answer : w.answer with
  | none => exact absurd (stands.pending answer).2 (Nat.not_le_of_lt late)
  | some answer' =>
      cases answer' with
      | false => rfl
      | true => exact absurd (stands.succeeded answer) missing

end Waiter

namespace Timeline

variable {expected time place : Nat} {answer : Bool} {event : Event} {past later : List Event}
  {runtime : Runtime} {t t' t'' : Timeline} {w w' : Waiter}

@[simp]
theorem Waiter.deadline_settle : (Waiter.settle answer w).deadline = w.deadline := by
  unfold Waiter.settle
  split <;> rfl

theorem Waiter.settle_of_pending (pending : w.answer = none) :
    Waiter.settle answer w = { w with answer := some answer } := by
  unfold Waiter.settle
  rw [pending]

theorem Waiter.settle_of_answered (answered : w.answer ≠ none) : Waiter.settle answer w = w := by
  unfold Waiter.settle
  split
  · rename_i pending
    exact absurd pending answered
  · rfl

theorem Waiter.becomes_settle (answer : Bool) (w : Waiter) :
    Waiter.Becomes w (Waiter.settle answer w) :=
  ⟨Waiter.deadline_settle, Waiter.settle_of_answered⟩

/-! ## One event -/

theorem waiters_countDown (t : Timeline) : t.countDown.2.waiters = t.waiters.map fun w =>
    if t.countDown.2.signal.isComplete then Waiter.settle true w else w := by
  show (if t.countDown.2.signal.isComplete then t.waiters.map (Waiter.settle true)
    else t.waiters) = _
  cases t.countDown.2.signal.isComplete with
  | false => exact (List.map_id _).symm
  | true => rfl

theorem becomes_map {f : Waiter → Waiter} (each : ∀ w, Waiter.Becomes w (f w))
    (there : t.waiters[place]? = some w) :
    ∃ w', (t.waiters.map f)[place]? = some w' ∧ Waiter.Becomes w w' := by
  refine ⟨f w, ?_, each w⟩
  rw [List.getElem?_map, there]
  rfl

theorem becomes_countDown (there : t.waiters[place]? = some w) :
    ∃ w', t.countDown.2.waiters[place]? = some w' ∧ Waiter.Becomes w w' := by
  rw [waiters_countDown]
  refine becomes_map (fun w => ?_) there
  split
  · exact Waiter.becomes_settle true w
  · exact .refl w

/-- A wait stays in its place, and its answer is final. -/
theorem Happens.becomes (happens : Happens t event t') (there : t.waiters[place]? = some w) :
    ∃ w', t'.waiters[place]? = some w' ∧ Waiter.Becomes w w' := by
  cases happens with
  | countDown | due _ _ => exact becomes_countDown there
  | schedule | reach _ _ | clear _ | turn => exact ⟨w, there, .refl w⟩
  | startWait timeout =>
      have within : place < t.waiters.length := (List.getElem?_eq_some_iff.1 there).1
      exact ⟨w, (List.getElem?_append_left within).trans there, .refl w⟩
  | advance _ =>
      refine becomes_map (fun w => ?_) there
      split
      · exact Waiter.becomes_settle false w
      · exact .refl w
  | @fail place' w' there' pending _ =>
      by_cases same : place' = place
      · subst same
        obtain rfl := Option.some.inj (there'.symm.trans there)
        have within : place' < t.waiters.length := (List.getElem?_eq_some_iff.1 there).1
        exact ⟨_, List.getElem?_set_self within, Waiter.becomes_settle false w'⟩
      · exact ⟨w, (List.getElem?_set_ne same).trans there, .refl w⟩

/-- Nothing but a countdown changes the signal. -/
theorem Happens.signal_eq (happens : Happens t event t') :
    t'.signal = if event.countsDown then t.signal.countDown.2 else t.signal := by
  cases happens <;> rfl

/-- Nothing but a countdown returns anything, and that is what is left. -/
theorem Happens.left?_eq (happens : Happens t event t') :
    event.left? = if event.countsDown then some t'.signal.count else none := by
  cases happens <;> rfl

theorem count_ne_zero_iff : t.signal.isComplete = false ↔ t.signal.count ≠ 0 :=
  beq_eq_false_iff_ne

theorem count_eq_zero_iff : t.signal.isComplete = true ↔ t.signal.count = 0 :=
  beq_iff_eq

/-- A countdown that completes the signal leaves no wait pending, another one changes none. -/
theorem stands_countDown (stands : ∀ w ∈ t.waiters, w.Stands t.signal.count t.now) :
    ∀ w ∈ t.countDown.2.waiters, w.Stands t.countDown.2.signal.count t.now := by
  rw [waiters_countDown, List.forall_mem_map]
  intro w member
  have before := stands w member
  have fewer : t.signal.count = 0 → t.countDown.2.signal.count = 0 := by
    intro none
    rw [show t.countDown.2.signal.count = t.signal.count - 1 from rfl, none]
  cases complete : t.countDown.2.signal.isComplete with
  | false =>
      rw [if_neg Bool.false_ne_true]
      exact ⟨fun pending => ⟨count_ne_zero_iff.1 complete, (before.pending pending).2⟩,
        fun succeeded => fewer (before.succeeded succeeded), before.failed⟩
  | true =>
      have none := count_eq_zero_iff.1 complete
      rw [if_pos rfl]
      cases answer : w.answer with
      | none =>
          rw [Waiter.settle_of_pending answer]
          exact ⟨nofun, fun _ => none, nofun⟩
      | some answer' =>
          rw [Waiter.settle_of_answered (answer ▸ Option.some_ne_none _)]
          exact ⟨fun pending => (Option.some_ne_none _ (answer.symm.trans pending)).elim,
            fun _ => none, before.failed⟩

/-- A wait that fails at its deadline or later. -/
theorem Waiter.stands_settle_false {count now : Nat} (come : w.deadline ≤ now)
    (stands : w.answer = some true → count = 0) : (Waiter.settle false w).Stands count now := by
  cases answer : w.answer with
  | none =>
      rw [Waiter.settle_of_pending answer]
      exact ⟨nofun, nofun, fun _ => come⟩
  | some answer' =>
      rw [Waiter.settle_of_answered (answer ▸ Option.some_ne_none _)]
      exact ⟨fun pending => (Option.some_ne_none _ (answer.symm.trans pending)).elim, stands,
        fun _ => come⟩

/-- Every event keeps each wait as the signal and the clock have it. -/
theorem Happens.stands (happens : Happens t event t')
    (stands : ∀ w ∈ t.waiters, w.Stands t.signal.count t.now) :
    ∀ w ∈ t'.waiters, w.Stands t'.signal.count t'.now := by
  cases happens with
  | countDown | due _ _ => exact stands_countDown stands
  | schedule | clear _ | turn => exact stands
  | startWait timeout =>
      intro w member
      rcases List.mem_append.1 member with old | new
      · exact stands w old
      · rw [List.mem_singleton.1 new]
        cases complete : t.signal.isComplete with
        | false =>
            exact ⟨fun _ => ⟨count_ne_zero_iff.1 complete, t.now_le_alarm _⟩, nofun, nofun⟩
        | true => exact ⟨nofun, fun _ => count_eq_zero_iff.1 complete, nofun⟩
  | @advance time clearUntil =>
      refine List.forall_mem_map.2 fun w member => ?_
      have before := stands w member
      by_cases come : w.deadline ≤ time
      · rw [if_pos come]
        exact Waiter.stands_settle_false come before.succeeded
      · rw [if_neg come]
        exact ⟨fun pending => ⟨(before.pending pending).1, Nat.le_of_not_le come⟩, before.succeeded,
          fun failed => Nat.le_trans (before.failed failed) clearUntil.onward⟩
  | reach clearUntil undue =>
      intro w member
      have before := stands w member
      exact ⟨fun pending => ⟨(before.pending pending).1, undue w member pending⟩, before.succeeded,
        fun failed => Nat.le_trans (before.failed failed) clearUntil.onward⟩
  | fail there _ come =>
      intro w member
      rcases List.mem_or_eq_of_mem_set member with old | new
      · exact stands w old
      · rw [new]
        exact Waiter.stands_settle_false come (stands _ (List.mem_of_getElem? there)).succeeded

/-! ## Events in a row -/

theorem Leads.trans (leads : Leads t past t') (leads' : Leads t' later t'') :
    Leads t (past ++ later) t'' := by
  induction leads' with
  | here =>
      rw [List.append_nil]
      exact leads
  | on _ happens ih =>
      rw [← List.append_assoc]
      exact ih.on happens

theorem Happens.leads (happens : Happens t event t') : Leads t [event] t' :=
  Leads.here.on happens

theorem Leads.becomes (leads : Leads t past t') (there : t.waiters[place]? = some w) :
    ∃ w', t'.waiters[place]? = some w' ∧ w.Becomes w' := by
  induction leads with
  | here => exact ⟨w, there, .refl w⟩
  | on _ happens ih =>
      obtain ⟨w', there', becomes⟩ := ih
      obtain ⟨w'', there'', becomes'⟩ := happens.becomes there'
      exact ⟨w'', there'', becomes.trans becomes'⟩

/-- An answer is final, whatever happens. -/
theorem Leads.final (leads : Leads t past t') (there : t.waiters[place]? = some w)
    (answered : w.answer ≠ none) : t'.waiters[place]? = some w := by
  obtain ⟨w', there', becomes⟩ := leads.becomes there
  rw [there', becomes.final answered]

theorem Leads.stands (leads : Leads (start runtime expected) past t) :
    ∀ w ∈ t.waiters, w.Stands t.signal.count t.now := by
  induction leads with
  | here => exact fun _ none => (List.not_mem_nil none).elim
  | on _ happens ih => exact happens.stands ih

theorem Leads.count_eq (leads : Leads (start runtime expected) past t) :
    t.signal.count = expected - past.countP Event.countsDown := by
  induction leads with
  | here => rfl
  | @on past t' t'' event _ happens ih =>
      rw [happens.signal_eq, List.countP_append, List.countP_singleton]
      cases event.countsDown with
      | false => exact ih
      | true =>
          rw [if_pos rfl, if_pos rfl, Signal.count_countDown, ih]
          exact Nat.sub_sub _ _ _

/-- The countdowns have returned one number after the other, down to what is left. -/
theorem Leads.returned_eq (leads : Leads (start runtime expected) past t) :
    past.filterMap Event.left? =
      (List.range (past.countP Event.countsDown)).map fun earlier => expected - (earlier + 1) := by
  induction leads with
  | here => rfl
  | @on past t' t'' event before happens ih =>
      have count := (before.on happens).count_eq
      have returned := happens.left?_eq
      rw [List.filterMap_append, ih]
      rw [List.countP_append, List.countP_singleton] at count ⊢
      cases down : event.countsDown with
      | false =>
          rw [down, if_neg Bool.false_ne_true] at returned
          rw [List.filterMap_cons_none returned]
          exact List.append_nil _
      | true =>
          rw [down, if_pos rfl] at returned count
          rw [List.filterMap_cons_some returned, if_pos rfl, List.range_succ, List.map_append,
            count]
          rfl

/-! ## One wait -/

theorem place_startWait (t : Timeline) (timeout : Duration) :
    (t.startWait timeout).waiters[t.waiters.length]? =
      some ⟨t.alarm timeout.toNanos, if t.signal.isComplete then some true else none⟩ :=
  List.getElem?_concat_length

theorem Leads.becomes_startWait {timeout : Duration}
    (leads : Leads (t.startWait timeout) later t') :
    ∃ w, t'.waiters[t.waiters.length]? = some w ∧ w.deadline = t.alarm timeout.toNanos ∧
      (t.signal.count = 0 → w.answer = some true) := by
  obtain ⟨w, there, becomes⟩ := leads.becomes (t.place_startWait timeout)
  refine ⟨w, there, becomes.deadline, fun none => ?_⟩
  have complete : (if t.signal.isComplete then some true else Option.none) = some true :=
    if_pos (count_eq_zero_iff.2 none)
  rw [becomes.final (by rw [complete]; exact Option.some_ne_none true)]
  exact complete

/-- The countdown that completes the signal releases all who wait. -/
theorem Happens.released (happens : Happens t event t')
    (stands : ∀ w ∈ t.waiters, w.Stands t.signal.count t.now) (complete : t'.signal.count = 0)
    (there : t.waiters[place]? = some w) (pending : w.answer = none) :
    event.countsDown = true ∧ t'.waiters[place]? = some { w with answer := some true } := by
  have missing : t.signal.count ≠ 0 :=
    ((stands w (List.mem_of_getElem? there)).pending pending).1
  have released (complete : t.countDown.2.signal.count = 0) :
      t.countDown.2.waiters[place]? = some { w with answer := some true } := by
    have isComplete := count_eq_zero_iff.2 complete
    rw [waiters_countDown, isComplete, List.getElem?_map, there, ← Waiter.settle_of_pending pending]
    rfl
  cases happens with
  | countDown | due _ _ => exact ⟨rfl, released complete⟩
  | _ => exact absurd complete missing

/-- **A signal counts and wakes exactly**, whatever is asked of it and whenever. -/
theorem Leads.exact (leads : Leads (start runtime expected) past t) : Exact expected past t where
  count := leads.count_eq
  returned := leads.returned_eq
  steady event t' happens other := by
    rw [happens.signal_eq, other]
    rfl
  released event t' happens complete place w there pending :=
    happens.released leads.stands complete there pending
  waits timeout between later t' t'' leads' leads'' := by
    have before := leads.on (.startWait timeout)
    obtain ⟨w', there', deadline, atOnce⟩ := leads'.becomes_startWait
    have stands := (before.trans leads').stands w' (List.mem_of_getElem? there')
    obtain ⟨w, there, becomes⟩ := leads''.becomes there'
    have kept {answer : Bool} (answered : w'.answer = some answer) : w.answer = some answer := by
      rw [becomes.final (answered ▸ Option.some_ne_none answer), answered]
    refine ⟨w, there, becomes.deadline.trans deadline, fun complete => kept ?_, fun late => kept ?_⟩
    · rcases complete with now | ⟨none, early⟩
      · exact atOnce now
      · exact stands.succeeded_of_lt none (becomes.deadline ▸ early)
    · exact stands.failed_of_lt late.1 (becomes.deadline ▸ late.2)
  complete succeeded timeout later t' leads' := by
    obtain ⟨w, member, answer⟩ := succeeded
    have none := (leads.stands w member).succeeded answer
    obtain ⟨w', there', -, atOnce⟩ := leads'.becomes_startWait
    exact ⟨w', there', atOnce none⟩
  final place w there answered later t' leads' := leads'.final there answered

end Timeline

end DeliveryBench
