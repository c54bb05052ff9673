import DeliveryBench.Proofs.Signal.Exactness
import Mathlib.Data.List.Forall2

/-!
# What a signal is asked for, and what comes of it

Whatever is asked of a signal, the waits end as they do in one of its runs (`leads_serve`): the
requests are the events that are asked for, and all between them comes about by itself
(`Proceeds`). With `Leads.exact` this says how each wait ends (`signal_counts_and_wakes_exactly`).

The waits of earlier requests have their answers, so that nothing happens to them any more, and what
happens to a signal with the later waits alone happens to it with all of them (`Leads.withPast`).
Each request is therefore looked at as if no wait had been before (`leads_await`).
-/

namespace DeliveryBench

namespace Timeline

variable {time waits : Nat} {timeout : Duration} {arrangements : List Arrangement} {event : Event}
  {events past : List Event} {t t' t'' : Timeline} {w : Waiter}

/-! ## An orderly agenda -/

/-- Nothing on the agenda has been passed, and the earliest is the first. -/
structure Orderly (t : Timeline) : Prop where
  sorted : t.agenda.Pairwise fun a b => a.time ≤ b.time
  ahead : ∀ a ∈ t.agenda, t.now ≤ a.time

theorem Orderly.schedule (orderly : t.Orderly) (arrangements : List Arrangement) :
    (t.schedule arrangements).Orderly := by
  have total (a b : Appointment) :
      decide (a.time ≤ b.time) = true ∨ decide (b.time ≤ a.time) = true := by
    rw [decide_eq_true_iff, decide_eq_true_iff]
    exact Nat.le_total _ _
  have trans (a b c : Appointment) (first : decide (a.time ≤ b.time) = true)
      (second : decide (b.time ≤ c.time) = true) : decide (a.time ≤ c.time) = true := by
    rw [decide_eq_true_iff] at first second ⊢
    exact Nat.le_trans first second
  constructor
  · refine (pairwise_sortBy_of_total total trans _).imp fun ordered => ?_
    exact of_decide_eq_true ordered
  · intro a member
    rcases List.mem_append.1 (mem_sortBy.1 member) with old | new
    · exact orderly.ahead a old
    · obtain ⟨arrangement, -, rfl⟩ := List.mem_map.1 new
      exact t.now_le_alarm _

theorem Happens.orderly (happens : Happens t event t') (orderly : t.Orderly) : t'.Orderly := by
  cases happens with
  | countDown | startWait | fail _ _ _ | turn => exact ⟨orderly.sorted, orderly.ahead⟩
  | schedule arrangements => exact orderly.schedule arrangements
  | advance clearUntil | reach clearUntil _ => exact ⟨orderly.sorted, clearUntil.appointments⟩
  | @due time times rest first _ =>
      have sorted := orderly.sorted
      have ahead := orderly.ahead
      rw [first] at sorted ahead
      obtain ⟨before, others⟩ := List.pairwise_cons.1 sorted
      obtain ⟨here, later⟩ := List.forall_mem_cons.1 ahead
      exact ⟨List.pairwise_cons.2 ⟨before, others⟩, List.forall_mem_cons.2 ⟨here, later⟩⟩
  | clear first =>
      have sorted := orderly.sorted
      have ahead := orderly.ahead
      rw [first] at sorted ahead
      exact ⟨(List.pairwise_cons.1 sorted).2, (List.forall_mem_cons.1 ahead).2⟩

theorem Leads.orderly (leads : Leads t past t') (orderly : t.Orderly) : t'.Orderly := by
  induction leads with
  | here => exact orderly
  | on _ happens ih => exact happens.orderly ih

/-! ## What comes about by itself -/

/-- One timeline comes to another without anything being asked for. -/
def Proceeds (t t' : Timeline) : Prop :=
  ∃ events, Leads t events t' ∧ events.filterMap Event.ask? = []

theorem Proceeds.refl (t : Timeline) : Proceeds t t :=
  ⟨[], .here, rfl⟩

theorem Proceeds.trans (proceeds : Proceeds t t') (proceeds' : Proceeds t' t'') :
    Proceeds t t'' := by
  obtain ⟨events, leads, unasked⟩ := proceeds
  obtain ⟨events', leads', unasked'⟩ := proceeds'
  refine ⟨events ++ events', leads.trans leads', ?_⟩
  rw [List.filterMap_append, unasked, unasked']
  rfl

theorem Happens.proceeds (happens : Happens t event t') (unasked : event.ask? = none) :
    Proceeds t t' :=
  ⟨[event], happens.leads, List.filterMap_cons_none unasked⟩

/-- What holds at first and is kept by all that comes about by itself holds in the end. -/
theorem Proceeds.induction {motive : Timeline → Prop} (proceeds : Proceeds t t') (first : motive t)
    (step : ∀ t event t', Happens t event t' → event.ask? = none → motive t → motive t') :
    motive t' := by
  obtain ⟨events, leads, unasked⟩ := proceeds
  induction leads with
  | here => exact first
  | @on past t' t'' event _ happens ih =>
      rw [List.filterMap_append, List.append_eq_nil_iff] at unasked
      have alone : event.ask? = none :=
        List.filterMap_eq_nil_iff.1 unasked.2 event List.mem_cons_self
      exact step t' event t'' happens alone (ih unasked.1)

theorem Proceeds.orderly (proceeds : Proceeds t t') (orderly : t.Orderly) : t'.Orderly :=
  proceeds.induction orderly fun _ _ _ happens _ => happens.orderly

/-- The waits stay the same ones, each in its place. -/
theorem Proceeds.waiters (proceeds : Proceeds t t') :
    List.Forall₂ Waiter.Becomes t.waiters t'.waiters := by
  have length : t'.waiters.length = t.waiters.length := by
    refine proceeds.induction (motive := fun t' => t'.waiters.length = t.waiters.length) rfl
      fun t event t' happens unasked same => ?_
    cases happens with
    | countDown | startWait | schedule => cases unasked
    | due _ _ =>
        refine Eq.trans ?_ same
        show t.countDown.2.waiters.length = _
        rw [waiters_countDown, List.length_map]
    | advance _ => exact (List.length_map _).trans same
    | reach _ _ | clear _ | turn => exact same
    | fail _ _ _ => exact List.length_set.trans same
  obtain ⟨events, leads, -⟩ := proceeds
  refine List.forall₂_iff_get.2 ⟨length.symm, fun place within within' => ?_⟩
  obtain ⟨w', there, becomes⟩ := leads.becomes (List.getElem?_eq_getElem within)
  rw [List.getElem?_eq_getElem within'] at there
  rw [List.get_eq_getElem, List.get_eq_getElem, Option.some.inj there]
  exact becomes

/-- What is so of the deadlines stays so. -/
theorem Proceeds.forall_deadline {p : Nat → Prop} (proceeds : Proceeds t t')
    (before : ∀ w ∈ t.waiters, p w.deadline) : ∀ w ∈ t'.waiters, p w.deadline := by
  have becomes := proceeds.waiters
  generalize t.waiters = ws at before becomes
  generalize t'.waiters = ws' at becomes ⊢
  induction becomes with
  | nil => exact before
  | cons becomes _ ih =>
      obtain ⟨first, others⟩ := List.forall_mem_cons.1 before
      exact List.forall_mem_cons.2 ⟨becomes.deadline ▸ first, ih others⟩

/-- How many waits have no answer yet. -/
def pending (ws : List Waiter) : Nat :=
  ws.countP fun w => w.answer.isNone

theorem Proceeds.pending_le (proceeds : Proceeds t t') :
    pending t'.waiters ≤ pending t.waiters := by
  have becomes := proceeds.waiters
  generalize t.waiters = ws at becomes
  generalize t'.waiters = ws' at becomes ⊢
  unfold pending
  induction becomes with
  | nil => exact Nat.le_refl _
  | @cons w w' ws ws' becomes _ ih =>
      rw [List.countP_cons, List.countP_cons]
      refine Nat.add_le_add ih ?_
      by_cases pending : w.answer = none
      · rw [pending]
        split <;> simp
      · exact Nat.le_of_eq (by rw [becomes.final pending])

theorem hasPending_iff : t.hasPending = true ↔ pending t.waiters ≠ 0 := by
  unfold hasPending pending
  rw [List.any_eq_true, ← Nat.pos_iff_ne_zero, List.countP_pos_iff]

/-! ## Appointments -/

/-- An appointment whose time has come is kept. -/
theorem proceeds_appointment {a : Appointment} {rest : List Appointment} (come : a.time ≤ t.now) :
    Proceeds { t with agenda := a :: rest } { countDownTimes a.times t with agenda := rest } := by
  obtain ⟨time, times⟩ := a
  induction times generalizing t with
  | zero =>
      have clear : Happens { t with agenda := ⟨time, 0⟩ :: rest } .clear { t with agenda := rest } :=
        .clear rfl
      exact clear.proceeds rfl
  | succ times ih =>
      have due : Happens { t with agenda := ⟨time, times + 1⟩ :: rest } (.due t.countDown.1)
          { t.countDown.2 with agenda := ⟨time, times⟩ :: rest } :=
        .due rfl come
      exact (due.proceeds rfl).trans (ih come)

theorem now_countDownTimes (n : Nat) (t : Timeline) : (countDownTimes n t).now = t.now := by
  induction n generalizing t with
  | zero => rfl
  | succ n ih => exact ih t.countDown.2

theorem agenda_countDownTimes (n : Nat) (t : Timeline) (agenda : List Appointment) :
    { countDownTimes n t with agenda } = countDownTimes n { t with agenda } := by
  induction n generalizing t with
  | zero => rfl
  | succ n ih => exact ih t.countDown.2

/-- Keeping appointments while somebody waits. -/
theorem proceeds_keep {agenda : List Appointment}
    (sorted : agenda.Pairwise fun a b => a.time ≤ b.time) (ahead : ∀ a ∈ agenda, t.now ≤ a.time) :
    Proceeds { t with agenda } (keep agenda time t) := by
  induction agenda generalizing t with
  | nil => exact .refl _
  | cons a rest ih =>
      unfold keep
      split
      · obtain ⟨before, others⟩ := List.pairwise_cons.1 sorted
        have clearUntil : ClearUntil { t with agenda := a :: rest } a.time :=
          ⟨ahead a List.mem_cons_self, List.forall_mem_cons.2 ⟨Nat.le_refl _, before⟩⟩
        have advance : Happens { t with agenda := a :: rest } (.advance a.time)
            { t.advanceTo a.time with agenda := a :: rest } :=
          .advance clearUntil
        have kept : Proceeds { t.advanceTo a.time with agenda := a :: rest }
            { countDownTimes a.times (t.advanceTo a.time) with agenda := rest } :=
          proceeds_appointment (Nat.le_refl _)
        refine ((advance.proceeds rfl).trans kept).trans (ih others ?_)
        rw [now_countDownTimes]
        exact before
      · exact .refl _

/-- If somebody still waits then, nothing is left on the agenda that lies before the time. -/
theorem clearUntil_keep {agenda : List Appointment}
    (sorted : agenda.Pairwise fun a b => a.time ≤ b.time) (onward : t.now ≤ time)
    (waited : (keep agenda time t).hasPending = true) : (keep agenda time t).ClearUntil time := by
  induction agenda generalizing t with
  | nil => exact ⟨onward, fun _ none => (List.not_mem_nil none).elim⟩
  | cons a rest ih =>
      obtain ⟨before, others⟩ := List.pairwise_cons.1 sorted
      unfold keep at waited ⊢
      split at waited
      · rename_i early
        rw [if_pos early]
        refine ih others ?_ waited
        rw [now_countDownTimes]
        exact Nat.le_of_lt early.1
      · rename_i late
        rw [if_neg late]
        have come : time ≤ a.time := Nat.le_of_not_lt fun early => late ⟨early, waited⟩
        exact ⟨onward, List.forall_mem_cons.2
          ⟨come, fun b member => Nat.le_trans come (before b member)⟩⟩

/-- Everything that is due happens. -/
theorem proceeds_due (due later : List Appointment) (come : ∀ a ∈ due, a.time ≤ t.now) :
    Proceeds { t with agenda := due ++ later }
      (due.foldl (fun t a => countDownTimes a.times t) { t with agenda := later }) := by
  induction due generalizing t with
  | nil => exact .refl _
  | cons a rest ih =>
      obtain ⟨first, others⟩ := List.forall_mem_cons.1 come
      have kept : Proceeds { t with agenda := a :: (rest ++ later) }
          { countDownTimes a.times t with agenda := rest ++ later } :=
        proceeds_appointment first
      refine kept.trans ?_
      rw [List.foldl_cons, ← agenda_countDownTimes a.times t later]
      exact ih (by rwa [now_countDownTimes])

/-- What is due stands at the front. -/
theorem filter_append_filter_of_sorted {agenda : List Appointment}
    (sorted : agenda.Pairwise fun a b => a.time ≤ b.time) (now : Nat) :
    (agenda.filter fun a => decide (a.time ≤ now)) ++
      (agenda.filter fun a => !decide (a.time ≤ now)) = agenda := by
  induction agenda with
  | nil => rfl
  | cons a rest ih =>
      obtain ⟨before, others⟩ := List.pairwise_cons.1 sorted
      rw [List.filter_cons, List.filter_cons]
      by_cases come : a.time ≤ now
      · rw [decide_eq_true come]
        exact congrArg (a :: ·) (ih others)
      · have none : rest.filter (fun a => decide (a.time ≤ now)) = [] := by
          refine List.filter_eq_nil_iff.2 fun b member => ?_
          rw [decide_eq_true_iff]
          exact fun due => come (Nat.le_trans (before b member) due)
        have whole := ih others
        rw [none] at whole ⊢
        rw [decide_eq_false come]
        exact congrArg (a :: ·) whole

theorem proceeds_happenDue (orderly : t.Orderly) : Proceeds t t.happenDue := by
  have whole := filter_append_filter_of_sorted orderly.sorted t.now
  have due := proceeds_due (t := t) (t.agenda.filter fun a => a.time ≤ t.now)
    (t.agenda.filter fun a => !decide (a.time ≤ t.now))
    fun a member => of_decide_eq_true (List.mem_filter.1 member).2
  rw [whole] at due
  unfold happenDue
  rw [List.partition_eq_filter_filter]
  exact due

theorem now_happenDue (t : Timeline) : t.happenDue.now = t.now := by
  have kept (due : List Appointment) (t : Timeline) :
      (due.foldl (fun t a => countDownTimes a.times t) t).now = t.now := by
    induction due generalizing t with
    | nil => rfl
    | cons a rest ih =>
        rw [List.foldl_cons, ih, now_countDownTimes]
  exact kept _ _

/-! ## Waits that fail -/

theorem failFirst_zero (ws : List Waiter) : failFirst 0 ws = (0, ws) := by
  cases ws <;> rfl

theorem failFirst_pending {credit : Nat} {rest : List Waiter} (pending : w.answer = none) :
    failFirst (credit + 1) (w :: rest) =
      ((failFirst credit rest).1, Waiter.settle false w :: (failFirst credit rest).2) := by
  obtain ⟨deadline, answer⟩ := w
  subst pending
  rfl

theorem failFirst_answered {credit : Nat} {rest : List Waiter} (answered : w.answer ≠ none) :
    failFirst (credit + 1) (w :: rest) =
      ((failFirst (credit + 1) rest).1, w :: (failFirst (credit + 1) rest).2) := by
  obtain ⟨deadline, answer⟩ := w
  cases answer with
  | none => exact absurd rfl answered
  | some answer => rfl

/-- The pending waits fail whose turn it is, provided that their deadline has come. -/
theorem proceeds_failFirst {ws : List Waiter} (front : List Waiter) (credit : Nat)
    (come : ∀ w ∈ ws, w.deadline ≤ t.now) : Proceeds { t with waiters := front ++ ws }
      { t with waiters := front ++ (failFirst credit ws).2 } := by
  induction ws generalizing front credit with
  | nil => exact .refl _
  | cons w rest ih =>
      obtain ⟨first, others⟩ := List.forall_mem_cons.1 come
      cases credit with
      | zero =>
          rw [failFirst_zero]
          exact .refl _
      | succ credit =>
          by_cases pending : w.answer = none
          · rw [failFirst_pending pending]
            have there : (front ++ w :: rest)[front.length]? = some w := by
              rw [List.getElem?_append_right (Nat.le_refl _), Nat.sub_self]
              rfl
            have fail : Happens { t with waiters := front ++ w :: rest } (.fail front.length) _ :=
              .fail there pending first
            dsimp only at fail
            rw [List.set_append_right _ _ (Nat.le_refl _), Nat.sub_self] at fail
            have rest := ih (front ++ [Waiter.settle false w]) credit others
            rw [List.append_assoc, List.append_assoc] at rest
            exact (fail.proceeds rfl).trans rest
          · rw [failFirst_answered pending]
            have rest := ih (front ++ [w]) (credit + 1) others
            rw [List.append_assoc, List.append_assoc] at rest
            exact rest

theorem pending_failFirst (credit : Nat) (ws : List Waiter) :
    pending (failFirst credit ws).2 = pending ws - credit := by
  unfold pending
  induction ws generalizing credit with
  | nil => exact (Nat.zero_sub _).symm
  | cons w rest ih =>
      cases credit with
      | zero =>
          rw [failFirst_zero]
          rfl
      | succ credit =>
          cases answer : w.answer with
          | none =>
              rw [failFirst_pending answer, List.countP_cons, List.countP_cons, ih,
                Waiter.settle_of_pending answer, answer]
              exact (Nat.add_sub_add_right _ 1 _).symm
          | some answer' =>
              rw [failFirst_answered (answer ▸ Option.some_ne_none _), List.countP_cons,
                List.countP_cons, ih, answer]
              rfl

/-- The timeline after the waits have failed whose turn it is. -/
def afterTurn (t : Timeline) : Timeline :=
  { t with credit := (failFirst t.credit t.waiters).1, waiters := (failFirst t.credit t.waiters).2 }

theorem proceeds_afterTurn (come : ∀ w ∈ t.waiters, w.deadline ≤ t.now) :
    Proceeds t t.afterTurn := by
  have failed : Proceeds t { t with waiters := (failFirst t.credit t.waiters).2 } :=
    proceeds_failFirst [] t.credit come
  have turn : Happens { t with waiters := (failFirst t.credit t.waiters).2 }
      (.turn (failFirst t.credit t.waiters).1) t.afterTurn :=
    .turn _
  exact failed.trans (turn.proceeds rfl)

/-- The timeline at the beginning of the next turn. -/
def nextTurn (t : Timeline) : Timeline :=
  { t.afterTurn.happenDue with credit := t.runtime.turnLimit }

theorem proceeds_nextTurn (orderly : t.Orderly) (come : ∀ w ∈ t.waiters, w.deadline ≤ t.now) :
    Proceeds t t.nextTurn := by
  have failed := proceeds_afterTurn come
  have turn : Happens t.afterTurn.happenDue (.turn t.runtime.turnLimit) t.nextTurn := .turn _
  exact (failed.trans (proceeds_happenDue (failed.orderly orderly))).trans (turn.proceeds rfl)

/-- No time passes from one turn to the next. -/
theorem come_nextTurn (orderly : t.Orderly) (come : ∀ w ∈ t.waiters, w.deadline ≤ t.now) :
    ∀ w ∈ t.nextTurn.waiters, w.deadline ≤ t.nextTurn.now := by
  rw [show t.nextTurn.now = t.now from now_happenDue t.afterTurn]
  exact (proceeds_nextTurn orderly come).forall_deadline (p := (· ≤ t.now)) come

theorem expire_succ (goes : Nat) (t : Timeline) : expire (goes + 1) t =
    if t.afterTurn.hasPending then expire goes t.nextTurn else t.afterTurn :=
  rfl

theorem proceeds_expire (goes : Nat) (orderly : t.Orderly)
    (come : ∀ w ∈ t.waiters, w.deadline ≤ t.now) : Proceeds t (expire goes t) := by
  induction goes generalizing t with
  | zero => exact .refl _
  | succ goes ih =>
      rw [expire_succ]
      split
      · have next := proceeds_nextTurn orderly come
        exact next.trans (ih (next.orderly orderly) (come_nextTurn orderly come))
      · exact proceeds_afterTurn come

/-- In each turn but a first one without credit, some wait fails, so all have failed in the end. -/
theorem pending_expire {goes : Nat} (orderly : t.Orderly)
    (come : ∀ w ∈ t.waiters, w.deadline ≤ t.now)
    (enough : pending t.waiters + (1 - t.credit) < goes) : pending (expire goes t).waiters = 0 := by
  induction goes generalizing t with
  | zero => exact absurd enough (Nat.not_lt_zero _)
  | succ goes ih =>
      rw [expire_succ]
      have left : pending t.afterTurn.waiters = pending t.waiters - t.credit :=
        pending_failFirst t.credit t.waiters
      have failed := proceeds_afterTurn come
      split
      · rename_i some
        have next := proceeds_nextTurn orderly come
        have fewer := (proceeds_happenDue (failed.orderly orderly)).pending_le
        refine ih (next.orderly orderly) (come_nextTurn orderly come) ?_
        have missing := hasPending_iff.1 some
        have room : 1 - t.runtime.turnLimit = 0 := Nat.sub_eq_zero_of_le t.runtime.turnLimit_pos
        show pending t.afterTurn.happenDue.waiters + (1 - t.runtime.turnLimit) < goes
        omega
      · rename_i none
        exact Decidable.of_not_not fun missing => none (hasPending_iff.2 missing)

/-! ## Requests -/

theorem leads_startWaits (t : Timeline) (timeout : Duration) (waits : Nat) :
    Leads t (List.replicate waits (.startWait timeout))
      (Nat.repeat (startWait · timeout) waits t) := by
  induction waits with
  | zero => exact .here
  | succ waits ih =>
      rw [List.replicate_succ']
      exact ih.on (.startWait timeout)

/-- Starting waits changes neither the time nor what the timers do. -/
theorem alarm_startWaits (t : Timeline) (timeout : Duration) (waits : Nat) :
    (Nat.repeat (startWait · timeout) waits t).now = t.now ∧
      (Nat.repeat (startWait · timeout) waits t).alarm = t.alarm := by
  induction waits with
  | zero => exact ⟨rfl, rfl⟩
  | succ waits ih => exact ih

theorem length_startWaits (t : Timeline) (timeout : Duration) (waits : Nat) :
    (Nat.repeat (startWait · timeout) waits t).waiters.length = t.waiters.length + waits := by
  induction waits with
  | zero => rfl
  | succ waits ih =>
      show ((Nat.repeat (startWait · timeout) waits t).waiters ++ [_]).length = _
      rw [List.length_append, ih]
      rfl

theorem deadline_startWaits (timeout : Duration) (waits : Nat)
    (alike : ∀ w ∈ t.waiters, w.deadline = t.alarm timeout.toNanos) :
    ∀ w ∈ (Nat.repeat (startWait · timeout) waits t).waiters,
      w.deadline = t.alarm timeout.toNanos := by
  induction waits with
  | zero => exact alike
  | succ waits ih =>
      intro w member
      rcases List.mem_append.1 member with old | new
      · exact ih w old
      · rw [List.mem_singleton.1 new, ← (alarm_startWaits t timeout waits).2]

/-- Once all appointments before the deadline have been kept and somebody still waits, the deadline
comes, and no wait is left without an answer. -/
theorem proceeds_deadline {waits : Nat} (orderly : t.Orderly)
    (alike : ∀ w ∈ t.waiters, w.deadline = time) (onward : t.now ≤ time)
    (few : t.waiters.length ≤ waits) (waited : (keep t.agenda time t).hasPending = true)
    (credit : Nat) :
    let come := { keep t.agenda time t with now := time, credit }
    Proceeds t (expire (waits + 2) come) ∧ pending (expire (waits + 2) come).waiters = 0 := by
  have kept : Proceeds t (keep t.agenda time t) := proceeds_keep orderly.sorted orderly.ahead
  have alike' := kept.forall_deadline (p := (· = time)) alike
  have reach : Happens (keep t.agenda time t) (.reach time)
      { keep t.agenda time t with now := time } :=
    .reach (clearUntil_keep orderly.sorted onward waited) fun w member _ =>
      Nat.le_of_eq (alike' w member).symm
  have turn : Happens { keep t.agenda time t with now := time } (.turn credit)
      { keep t.agenda time t with now := time, credit } :=
    .turn credit
  have come := (kept.trans (reach.proceeds rfl)).trans (turn.proceeds rfl)
  have due : ∀ w ∈ (keep t.agenda time t).waiters, w.deadline ≤ time :=
    fun w member => Nat.le_of_eq (alike' w member)
  have fewer : pending (keep t.agenda time t).waiters ≤ waits :=
    Nat.le_trans (Nat.le_trans kept.pending_le List.countP_le_length) few
  refine ⟨come.trans (proceeds_expire _ (come.orderly orderly) due),
    pending_expire (come.orderly orderly) due ?_⟩
  show pending (keep t.agenda time t).waiters + (1 - credit) < waits + 2
  omega

theorem pending_eq_zero_iff {ws : List Waiter} :
    pending ws = 0 ↔ ∀ w ∈ ws, w.answer ≠ none := by
  unfold pending
  rw [List.countP_eq_zero]
  simp only [Option.isNone_iff_eq_none, ne_eq]

/-- What becomes of waits that are asked for, had there been none before: they start, and then all
that follows comes about by itself, until each has an answer. -/
theorem leads_await (orderly : t.Orderly) (timeout : Duration) (waits : Nat)
    (arrangements : List Arrangement) :
    ∃ events, Leads { t with waiters := [] } events (t.await timeout waits arrangements).2 ∧
      events.filterMap Event.ask? = (Request.wait timeout waits arrangements).asks ∧
      ∀ w ∈ (t.await timeout waits arrangements).2.waiters, w.answer ≠ none := by
  have scheduled : Happens { t with waiters := [] } (.schedule arrangements)
      { t.schedule arrangements with waiters := [] } :=
    .schedule arrangements
  have began := scheduled.leads.trans
    (leads_startWaits { t.schedule arrangements with waiters := [] } timeout waits)
  have now := (alarm_startWaits { t.schedule arrangements with waiters := [] } timeout waits).1
  have few := length_startWaits { t.schedule arrangements with waiters := [] } timeout waits
  have alike := deadline_startWaits (t := { t.schedule arrangements with waiters := [] }) timeout
    waits fun _ none => (List.not_mem_nil none).elim
  have asked : ([Event.schedule arrangements] ++
      List.replicate waits (Event.startWait timeout)).filterMap Event.ask? =
        (Request.wait timeout waits arrangements).asks := by
    have each : (Event.startWait timeout).ask? = some (.startWait timeout) := rfl
    rw [List.filterMap_append, List.filterMap_replicate_of_some each]
    rfl
  unfold await
  dsimp only
  generalize Nat.repeat (startWait · timeout) waits { t.schedule arrangements with waiters := [] } =
    begun at began now few alike ⊢
  have orderly' : begun.Orderly := began.orderly ⟨orderly.sorted, orderly.ahead⟩
  -- What follows after the start is all that has to be found.
  suffices ended : ∀ t', Proceeds begun t' ∧ pending t'.waiters = 0 →
      ∃ events, Leads { t with waiters := [] } events t' ∧
        events.filterMap Event.ask? = (Request.wait timeout waits arrangements).asks ∧
        ∀ w ∈ t'.waiters, w.answer ≠ none by
    split
    · rename_i waited
      refine ended _ (proceeds_deadline orderly' (fun w member => ?_) ?_ ?_ waited _)
      · exact alike w member
      · rw [now]
        exact t.now_le_alarm _
      · rw [few]
        exact Nat.le_of_eq (Nat.zero_add _)
    · rename_i none
      refine ended _ ⟨proceeds_keep orderly'.sorted orderly'.ahead, ?_⟩
      exact Decidable.of_not_not fun missing => none (hasPending_iff.2 missing)
  intro t' both
  obtain ⟨⟨events, leads, unasked⟩, none⟩ := both
  refine ⟨_, began.trans leads, ?_, pending_eq_zero_iff.1 none⟩
  rw [List.filterMap_append, asked, unasked, List.append_nil]

theorem completed_await
    (answered : ∀ w ∈ (t.await timeout waits arrangements).2.waiters, w.answer ≠ none) :
    (t.await timeout waits arrangements).2.waiters.map Waiter.answer =
      (t.await timeout waits arrangements).1.completed.map some := by
  have completed : (t.await timeout waits arrangements).1.completed =
      (t.await timeout waits arrangements).2.waiters.map fun w => w.answer.getD false :=
    rfl
  rw [completed, List.map_map]
  refine List.map_congr_left fun w member => ?_
  cases answer : w.answer with
  | none => exact absurd answer (answered w member)
  | some answer' =>
      rw [Function.comp_apply, answer]
      rfl

/-- Where no countdown is asked for, nobody is told what is left. -/
theorem replies_eq_nil (silent : Ask.countDown ∉ events.filterMap Event.ask?) :
    events.filterMap Event.reply? = [] := by
  refine List.filterMap_eq_nil_iff.2 fun event member => ?_
  cases event with
  | countDown left =>
      have asked : Ask.countDown ∈ events.filterMap Event.ask? :=
        List.mem_filterMap.2 ⟨_, member, rfl⟩
      exact absurd asked silent
  | _ => rfl

/-! ## Earlier waits -/

/-- The timeline with the waits of the past in front of its own. -/
def withPast (past : List Waiter) (t : Timeline) : Timeline :=
  { t with waiters := past ++ t.waiters }

variable {before : List Waiter}

theorem map_of_answered {f : Waiter → Waiter} (answered : ∀ w ∈ before, w.answer ≠ none)
    (keeps : ∀ w : Waiter, w.answer ≠ none → f w = w) : before.map f = before := by
  rw [List.map_congr_left fun w member => keeps w (answered w member)]
  exact List.map_id _

theorem countDown_withPast (answered : ∀ w ∈ before, w.answer ≠ none) :
    (t.withPast before).countDown.2 = t.countDown.2.withPast before := by
  have waiters : (t.withPast before).countDown.2.waiters = before ++ t.countDown.2.waiters := by
    rw [waiters_countDown, waiters_countDown]
    show (before ++ t.waiters).map _ = _
    rw [List.map_append, map_of_answered answered fun w answered => ?_]
    · rfl
    · split
      · exact Waiter.settle_of_answered answered
      · rfl
  exact congrArg (fun waiters => { t.countDown.2 with waiters }) waiters

theorem advanceTo_withPast (answered : ∀ w ∈ before, w.answer ≠ none) (time : Nat) :
    (t.withPast before).advanceTo time = (t.advanceTo time).withPast before := by
  have waiters : ((t.withPast before).advanceTo time).waiters =
      before ++ (t.advanceTo time).waiters := by
    show (before ++ t.waiters).map _ = _
    rw [List.map_append, map_of_answered answered fun w answered => ?_]
    · rfl
    · split
      · exact Waiter.settle_of_answered answered
      · rfl
  exact congrArg (fun waiters => { t.advanceTo time with waiters }) waiters

/-- Nothing happens to waits that have their answers. -/
theorem Happens.withPast (happens : Happens t event t') (answered : ∀ w ∈ before, w.answer ≠ none) :
    ∃ event', Happens (t.withPast before) event' (t'.withPast before) ∧
      event'.ask? = event.ask? := by
  cases happens with
  | countDown =>
      refine ⟨.countDown (t.withPast before).countDown.1, ?_, rfl⟩
      rw [← countDown_withPast answered]
      exact .countDown
  | startWait timeout =>
      refine ⟨.startWait timeout, ?_, rfl⟩
      have waiters : (t.withPast before).startWait timeout =
          (t.startWait timeout).withPast before :=
        congrArg (fun waiters => { t with waiters }) (List.append_assoc _ _ _)
      rw [← waiters]
      exact .startWait timeout
  | schedule arrangements => exact ⟨.schedule arrangements, .schedule arrangements, rfl⟩
  | advance clearUntil =>
      refine ⟨.advance _, ?_, rfl⟩
      rw [← advanceTo_withPast answered]
      exact .advance ⟨clearUntil.onward, clearUntil.appointments⟩
  | reach clearUntil undue =>
      refine ⟨.reach _, .reach ⟨clearUntil.onward, clearUntil.appointments⟩ ?_, rfl⟩
      intro w member pending
      rcases List.mem_append.1 member with old | new
      · exact absurd pending (answered w old)
      · exact undue w new pending
  | @fail place w there pending come =>
      refine ⟨.fail (before.length + place), ?_, rfl⟩
      have there' : (t.withPast before).waiters[before.length + place]? = some w := by
        show (before ++ t.waiters)[before.length + place]? = some w
        rw [List.getElem?_append_right (Nat.le_add_right _ _), Nat.add_sub_cancel_left, there]
      have fail : Happens (t.withPast before) (.fail (before.length + place)) _ :=
        .fail there' pending come
      have waiters : (before ++ t.waiters).set (before.length + place) (Waiter.settle false w) =
          before ++ t.waiters.set place (Waiter.settle false w) := by
        rw [List.set_append_right _ _ (Nat.le_add_right _ _), Nat.add_sub_cancel_left]
      rw [show (t.withPast before).waiters = before ++ t.waiters from rfl, waiters] at fail
      exact fail
  | @due time times rest first come =>
      refine ⟨.due (t.withPast before).countDown.1, ?_, rfl⟩
      have due : Happens (t.withPast before) (.due (t.withPast before).countDown.1)
          { (t.withPast before).countDown.2 with agenda := ⟨time, times⟩ :: rest } :=
        .due first come
      rw [countDown_withPast answered] at due
      exact due
  | clear first => exact ⟨.clear, .clear first, rfl⟩
  | turn credit => exact ⟨.turn credit, .turn credit, rfl⟩

theorem Leads.withPast (leads : Leads t events t') (answered : ∀ w ∈ before, w.answer ≠ none) :
    ∃ events', Leads (t.withPast before) events' (t'.withPast before) ∧
      events'.filterMap Event.ask? = events.filterMap Event.ask? := by
  induction leads with
  | here => exact ⟨[], .here, rfl⟩
  | on _ happens ih =>
      obtain ⟨events', leads', same⟩ := ih
      obtain ⟨event', happens', same'⟩ := happens.withPast answered
      refine ⟨events' ++ [event'], leads'.on happens', ?_⟩
      rw [List.filterMap_append, List.filterMap_append, same, List.filterMap_cons, same']
      rfl

/-! ## Requests in a row -/

theorem countDown_of_answered (answered : ∀ w ∈ t.waiters, w.answer ≠ none) :
    t.countDown.2.waiters = t.waiters := by
  rw [waiters_countDown]
  refine map_of_answered answered fun w answered => ?_
  split
  · exact Waiter.settle_of_answered answered
  · rfl

/-- Requests are answered as countdowns return and waits end in a run in which nothing else is asked
for. -/
theorem leads_serve (requests : List Request) (orderly : t.Orderly)
    (answered : ∀ w ∈ before ++ t.waiters, w.answer ≠ none) :
    ∃ events t', Leads (t.withPast before) events t' ∧
      events.filterMap Event.ask? = requests.flatMap Request.asks ∧
      events.filterMap Event.reply? = (t.serve requests).1.left ∧
      t'.waiters.map Waiter.answer =
        (before ++ t.waiters).map Waiter.answer ++ (t.serve requests).1.completed.map some ∧
      t'.signal = (t.serve requests).2.signal ∧ t'.now = (t.serve requests).2.now := by
  induction requests generalizing t before with
  | nil => exact ⟨[], _, .here, rfl, rfl, (List.append_nil _).symm, rfl, rfl⟩
  | cons request rest ih =>
      rw [List.flatMap_cons]
      cases request with
      | countDown =>
          have same : t.countDown.2.waiters = t.waiters :=
            countDown_of_answered fun w member => answered w (List.mem_append_right _ member)
          have first : Leads (t.withPast before) [.countDown t.countDown.1]
              (t.countDown.2.withPast before) := by
            rw [← countDown_withPast fun w member => answered w (List.mem_append_left _ member)]
            exact Happens.countDown.leads
          obtain ⟨events, t', leads, asked, replied, answers, signal, now⟩ :=
            ih (Happens.countDown.orderly orderly) (by rwa [same])
          refine ⟨_, t', first.trans leads, ?_, ?_, ?_, signal, now⟩
          · rw [List.filterMap_append, asked]
            rfl
          · rw [List.filterMap_append, replied]
            rfl
          · rw [answers, same]
            rfl
      | wait timeout waits arrangements =>
          obtain ⟨events, leads, asked, ended⟩ := leads_await orderly timeout waits arrangements
          obtain ⟨events', leads', same⟩ := leads.withPast answered
          have whole : ({ t with waiters := [] } : Timeline).withPast (before ++ t.waiters) =
              t.withPast before :=
            congrArg (fun waiters => { t with waiters }) (List.append_nil _)
          rw [whole] at leads'
          have orderly' : (t.await timeout waits arrangements).2.Orderly :=
            leads.orderly ⟨orderly.sorted, orderly.ahead⟩
          obtain ⟨later, t', leads'', asked', replied, answers, signal, now⟩ := ih orderly'
            (List.forall_mem_append.2 ⟨answered, ended⟩)
          have silent : events'.filterMap Event.reply? = [] := by
            apply replies_eq_nil
            rw [same, asked]
            exact List.not_mem_cons_of_ne_of_not_mem nofun
              fun member => nomatch List.eq_of_mem_replicate member
          refine ⟨_, t', leads'.trans leads'', ?_, ?_, ?_, signal, now⟩
          · rw [List.filterMap_append, same, asked, asked']
          · rw [List.filterMap_append, silent, replied]
            rfl
          · rw [answers, List.map_append, completed_await ended, List.append_assoc]
            exact congrArg _ List.map_append.symm

/-- **A signal counts and wakes exactly**, whatever the granularity of the timers. Whatever happens
to it and to the waits on it, the count is what is left of the number that is expected, each
countdown returns it, the countdown that brings it to zero releases all who wait, and a wait
succeeds or fails as `Exact` says. And whatever is asked of a signal, its countdowns return and its
waits end as in such a run. -/
theorem signal_counts_and_wakes_exactly (runtime : Runtime) (expected : Nat) :
    (∀ past t, Leads (start runtime expected) past t → Exact expected past t) ∧
      ∀ requests, ∃ past t, Leads (start runtime expected) past t ∧
        past.filterMap Event.ask? = requests.flatMap Request.asks ∧
        past.filterMap Event.reply? = ((start runtime expected).serve requests).1.left ∧
        t.waiters.map Waiter.answer =
          ((start runtime expected).serve requests).1.completed.map some ∧
        t.signal = ((start runtime expected).serve requests).2.signal ∧
        t.now = ((start runtime expected).serve requests).2.now := by
  refine ⟨fun past t leads => leads.exact, fun requests => ?_⟩
  have orderly : (start runtime expected).Orderly :=
    ⟨List.Pairwise.nil, fun _ none => (List.not_mem_nil none).elim⟩
  have answered : ∀ w ∈ [] ++ (start runtime expected).waiters, w.answer ≠ none :=
    fun _ none => (List.not_mem_nil none).elim
  exact leads_serve requests orderly answered

/-- Of three waits on a signal that expects two countdowns, where timers go off at every
millisecond, the one of five milliseconds is released by the second countdown. Of the two others,
the one of half a microsecond fails after a millisecond, and the one without any time comes after
the countdowns and succeeds. -/
theorem one_released_one_failed_one_late :
    Leads (start {} 2) [.startWait (.ofMillis 5), .startWait (.ofNanos 500), .advance 1000000,
        .countDown 1, .countDown 0, .startWait .zero]
      { signal := ⟨2, 0⟩, now := 1000000,
        waiters := [⟨5000000, some true⟩, ⟨1000000, some false⟩, ⟨1000000, some true⟩] } ∧
    Exact 2 [.startWait (.ofMillis 5), .startWait (.ofNanos 500), .advance 1000000,
        .countDown 1, .countDown 0, .startWait .zero]
      { signal := ⟨2, 0⟩, now := 1000000,
        waiters := [⟨5000000, some true⟩, ⟨1000000, some false⟩, ⟨1000000, some true⟩] } := by
  have waiting : Leads (start {} 2) [.startWait (.ofMillis 5), .startWait (.ofNanos 500)]
      { signal := ⟨2, 2⟩, waiters := [⟨5000000, none⟩, ⟨1000000, none⟩] } :=
    (Leads.here.on (.startWait (.ofMillis 5))).on (.startWait (.ofNanos 500))
  have failed : Leads (start {} 2)
      [.startWait (.ofMillis 5), .startWait (.ofNanos 500), .advance 1000000]
      { signal := ⟨2, 2⟩, now := 1000000, waiters := [⟨5000000, none⟩, ⟨1000000, some false⟩] } :=
    waiting.on (.advance ⟨Nat.zero_le _, fun _ none => (List.not_mem_nil none).elim⟩)
  have run : Leads (start {} 2) [.startWait (.ofMillis 5), .startWait (.ofNanos 500),
        .advance 1000000, .countDown 1, .countDown 0, .startWait .zero]
      { signal := ⟨2, 0⟩, now := 1000000,
        waiters := [⟨5000000, some true⟩, ⟨1000000, some false⟩, ⟨1000000, some true⟩] } :=
    ((failed.on .countDown).on .countDown).on (.startWait .zero)
  exact ⟨run, (signal_counts_and_wakes_exactly {} 2).1 _ _ run⟩

end Timeline

end DeliveryBench
