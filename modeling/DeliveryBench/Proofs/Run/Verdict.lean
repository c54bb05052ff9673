import DeliveryBench.Proofs.Run.Underway
import DeliveryBench.Run.History

/-!
# What a successful report stands for

The outcome of a run is decided once, when it turns to the teardown, and stands from then on
(`Course.stands`). It is a success only if the runner found the deliveries as expected and then, if
handler failures count, found none (`Through.checked`, `Through.looked`).

The report is written after the teardown, from the journal of that moment. Nothing that was checked
is missing there (`Through.journal_grows`), but a worker that still had a message in hand, or on its
queue, may have recorded it in the meantime. So a successful report says that the deliveries were as
expected when they were checked (`successful_report_was_checked`). That they still are is only
certain if no delivery has been recorded since, and
`successful_report_with_an_unexpected_delivery` shows a run where one has.
-/

namespace DeliveryBench

variable {σ : Type}

/-- Whether the outcome of a run stands: what is left is the teardown. -/
def Stage.isDecided : Stage → Bool
  | .stopping _ | .awaiting _ | .abandoning _ | .closing | .reporting | .done _ => true
  | _ => false

theorem Standard.verify_eq_ok_iff {standard : Standard} {s : Snapshot} :
    standard.verify s = .ok () ↔ ∀ e ∈ standard.expectations, standard.violationsOf s e = [] := by
  rw [Standard.verify, Violation.verdict_eq_ok_iff]
  exact List.flatMap_eq_nil_iff

theorem Standard.no_failures_of_checkHandlers {failures : List HandlerFailure}
    (ok : checkHandlers true failures = .ok ()) : failures = [] := by
  cases failures with
  | nil => rfl
  | cons => cases ok

theorem Loop.Move.journal_grows {client : Client σ} {l l' : Loop} {w w' : World σ}
    (move : Loop.Move client l w l' w') : w.journal.Grows w'.journal := by
  cases move with
  | observed => exact Journal.grows_record _ _ _
  | failed => exact Journal.grows_recordFailure _ _ _ _ _
  | counted =>
      rw [World.countDown_journal]
      exact .refl _
  | stopped | took | deserted | broke | collapsed | passed => exact .refl _

namespace Run

variable {plan : Plan σ} {broker : σ} {past : List (Moment σ)} {r r' : Run σ} {s : Step}

/-! ## How far a run has come -/

/-- Whether a run has come to verify its deliveries. -/
def verifies (r : Option (Run σ)) : Bool :=
  r.any fun r => r.stage matches .verifying

theorem exists_of_verifies {next : Option (Run σ)} (come : verifies next = true) :
    ∃ r, next = some r ∧ r.stage = .verifying := by
  obtain ⟨r, there, stage⟩ := (Option.any_eq_true _ _).1 come
  refine ⟨r, there, ?_⟩
  split at stage
  · assumption
  · cases stage

/-- The report with which a run has ended. -/
def report? (r : Run σ) : Option Report :=
  match r.stage with
  | .done report => some report
  | _ => none

theorem exists_of_report? {next : Option (Run σ)} {p : Report → Bool}
    (ended : (next.bind report?).any p = true) :
    ∃ r report, next = some r ∧ r.stage = .done report ∧ p report = true := by
  obtain ⟨report, written, holds⟩ := (Option.any_eq_true _ _).1 ended
  rcases Option.bind_eq_some_iff.1 written with ⟨r, there, stage⟩
  refine ⟨r, report, there, ?_, holds⟩
  unfold report? at stage
  split at stage
  · rename_i stage'
    cases stage
    exact stage'
  · cases stage

/-! ## The verdict and the steps -/

/-- What has been decided stands. -/
structure Stands (r r' : Run σ) : Prop where
  decided : r'.stage.isDecided = true
  outcome : r'.outcome = r.outcome
  transitions : r'.transitions = r.transitions
  startFailures : r'.startFailures = r.startFailures

theorem Turn.stands (turn : Turn plan r r') (decided : r.stage.isDecided = true) :
    Stands r r' := by
  cases turn with
  | stoppedAll | marked | asked | ended | endedLate | aborted | closed | reported =>
      exact ⟨rfl, rfl, rfl, rfl⟩
  | startedOne stage | startFailed stage | startedAll stage | settled stage | published stage
  | publishRefused stage | publishNoted stage | publishFailed stage | publishedAll stage
  | metAll stage | metSome stage | timedOut stage | overflowed stage | violated stage
  | verified stage | judged stage =>
      rw [stage] at decided
      cases decided

theorem Course.stands (course : Course plan r s r') (decided : r.stage.isDecided = true) :
    Stands r r' := by
  cases course with
  | turned _ turn => exact turn.stands decided
  | ranOut _ stage =>
      rw [stage] at decided
      cases decided
  | gaveUp => exact ⟨rfl, rfl, rfl, rfl⟩
  | aside same => exact ⟨same.stage ▸ decided, same.outcome, same.transitions, same.startFailures⟩

/-- A step that decides the run turns to the teardown; it decides for success only where the handler
failures have been looked at. -/
theorem Course.decides (course : Course plan r s r') (undecided : r.stage.isDecided = false)
    (decided : r'.stage.isDecided = true) :
    r'.stage = .stopping 0 ∧ (r'.outcome = .ok () → s = .runner ∧ r.stage = .judging ∧
      Standard.checkHandlers plan.settings.failOnHandlerError r.world.journal.handlerFailures =
        .ok ()) := by
  cases course with
  | turned runner turn =>
      cases turn with
      | startFailed | publishRefused | publishFailed | timedOut | violated => exact ⟨rfl, nofun⟩
      | judged stage => exact ⟨rfl, fun ok => ⟨runner, stage, ok⟩⟩
      | startedOne | startedAll | settled | published | publishNoted | publishedAll | metAll
      | metSome | overflowed | verified => cases decided
      | stoppedAll stage | marked stage | asked stage | ended stage | endedLate stage
      | aborted stage | closed stage | reported stage =>
          rw [stage] at undecided
          cases undecided
  | ranOut => cases decided
  | gaveUp _ stage =>
      rw [stage] at undecided
      cases undecided
  | aside same =>
      rw [same.stage, undecided] at decided
      cases decided

/-- The handler failures are looked at only where the deliveries have been found as expected. -/
theorem Course.judging (course : Course plan r s r') (stage' : r'.stage = .judging) :
    r.stage = .judging ∨ s = .runner ∧ r.stage = .verifying ∧
      plan.scenario.standard.verify r.world.journal.snapshot = .ok () := by
  cases course with
  | turned runner turn =>
      cases turn with
      | verified stage fine => exact .inr ⟨runner, stage, fine⟩
      | _ => cases stage'
  | ranOut | gaveUp => cases stage'
  | aside same => exact .inl (same.stage.symm.trans stage')

/-! ## The verdict and the past -/

/-- A step of the past found the deliveries as expected. -/
def Checked (plan : Plan σ) (past : List (Moment σ)) : Prop :=
  ∃ check ∈ past, check.step = .runner ∧ check.before.stage = .verifying ∧
    plan.scenario.standard.verify check.before.world.journal.snapshot = .ok ()

/-- A step of the past, after which the run succeeded, looked at the handler failures. -/
def Looked (plan : Plan σ) (past : List (Moment σ)) : Prop :=
  ∃ look ∈ past, look.step = .runner ∧ look.before.stage = .judging ∧
    Standard.checkHandlers plan.settings.failOnHandlerError
      look.before.world.journal.handlerFailures = .ok ()

theorem Checked.later (checked : Checked plan past) (x : Moment σ) :
    Checked plan (past ++ [x]) := by
  obtain ⟨check, member, rest⟩ := checked
  exact ⟨check, List.mem_append_left _ member, rest⟩

theorem Looked.later (looked : Looked plan past) (x : Moment σ) : Looked plan (past ++ [x]) := by
  obtain ⟨look, member, rest⟩ := looked
  exact ⟨look, List.mem_append_left _ member, rest⟩

theorem Through.checked_of_judging (through : Through plan broker past r)
    (stage : r.stage = .judging) : Checked plan past := by
  induction through with
  | initial => cases stage
  | step s _ taken ih =>
      rcases (step_course taken).judging stage with before | ⟨runner, verifying, fine⟩
      · exact (ih before).later _
      · exact ⟨_, List.mem_concat_self, runner, verifying, fine⟩

theorem Through.looked (through : Through plan broker past r)
    (decided : r.stage.isDecided = true) (ok : r.outcome = .ok ()) : Looked plan past := by
  induction through with
  | initial => cases decided
  | @step past r r' s _ taken ih =>
      have course := step_course taken
      cases before : r.stage.isDecided with
      | true => exact (ih before ((course.stands before).outcome.symm.trans ok)).later _
      | false =>
          obtain ⟨-, success⟩ := course.decides before decided
          obtain ⟨runner, judging, fine⟩ := success ok
          exact ⟨_, List.mem_concat_self, runner, judging, fine⟩

theorem Through.checked (through : Through plan broker past r)
    (decided : r.stage.isDecided = true) (ok : r.outcome = .ok ()) : Checked plan past := by
  induction through with
  | initial => cases decided
  | @step past r r' s through taken ih =>
      have course := step_course taken
      cases before : r.stage.isDecided with
      | true => exact (ih before ((course.stands before).outcome.symm.trans ok)).later _
      | false =>
          obtain ⟨-, success⟩ := course.decides before decided
          obtain ⟨-, judging, -⟩ := success ok
          exact (through.checked_of_judging judging).later _

/-! ## The journal and the past -/

theorem Change.journal_grows (change : Change plan r s r') :
    r.world.journal.Grows r'.world.journal := by
  cases change with
  | moved _ _ move => exact move.journal_grows
  | started => exact .refl _
  | woundDown _ _ _ journal | elsewhere _ journal =>
      rw [journal]
      exact .refl _

/-- Nothing that was in the journal at some moment of the past has been lost. -/
theorem Through.journal_grows (through : Through plan broker past r) :
    ∀ x ∈ past, x.before.world.journal.Grows r.world.journal := by
  intro x member
  refine through.since (motive := fun r => x.before.world.journal.Grows r.world.journal) ?_ x
    member (.refl _)
  intro r₁ s r₂ grows taken
  exact grows.trans (step_change taken).journal_grows

/-! ## The report -/

theorem Course.done {report : Report} (course : Course plan r s r')
    (stage' : r'.stage = .done report) :
    r.stage = .done report ∨ s = .runner ∧ r.stage = .reporting ∧ report = r.report plan := by
  cases course with
  | turned runner turn =>
      cases turn with
      | reported reporting =>
          cases stage'
          exact .inr ⟨runner, reporting, rfl⟩
      | _ => cases stage'
  | ranOut | gaveUp => cases stage'
  | aside same => exact .inl (same.stage.symm.trans stage')

/-- A report has been written from the state of its moment. -/
theorem Through.reported {report : Report} (through : Through plan broker past r)
    (stage : r.stage = .done report) :
    ∃ earlier later r₁, past = earlier ++ ⟨r₁, .runner⟩ :: later ∧
      Through plan broker earlier r₁ ∧ r₁.stage = .reporting ∧ report = r₁.report plan := by
  induction through with
  | initial => cases stage
  | @step past r r' s through taken ih =>
      rcases (step_course taken).done stage with before | ⟨rfl, reporting, written⟩
      · obtain ⟨earlier, later, r₁, rfl, rest⟩ := ih before
        exact ⟨earlier, later ++ [⟨r, s⟩], r₁, by simp, rest⟩
      · exact ⟨past, [], r, rfl, through, reporting, written⟩

/-- **A successful report has been checked.** If a run ends in success, then at one of its steps every
expectation was met by the deliveries of that moment, and, if handler failures count, at another no
handler had failed. The report carries the deliveries that were checked and those that have been
recorded since; if there are none of the latter, it meets the expectations itself. -/
theorem successful_report_was_checked {report : Report} (through : Through plan broker past r)
    (stage : r.stage = .done report) (success : report.outcome = .ok ()) :
    (∃ check ∈ past, check.step = .runner ∧ check.before.stage = .verifying ∧
      (∀ e ∈ plan.scenario.expectations,
        plan.scenario.standard.violationsOf check.before.world.journal.snapshot e = []) ∧
      (∃ later, report.snapshot.observations.Perm
        (check.before.world.journal.snapshot.observations ++ later)) ∧
      (report.snapshot.size = check.before.world.journal.snapshot.size →
        ∀ e ∈ plan.scenario.expectations,
          plan.scenario.standard.violationsOf report.snapshot e = [])) ∧
    (plan.settings.failOnHandlerError = true →
      ∃ look ∈ past, look.step = .runner ∧ look.before.stage = .judging ∧
        look.before.world.journal.handlerFailures = []) := by
  obtain ⟨earlier, later, r₁, rfl, through₁, reporting, rfl⟩ := through.reported stage
  have decided : r₁.stage.isDecided = true := by
    rw [reporting]
    rfl
  refine ⟨?_, ?_⟩
  · obtain ⟨check, member, runner, verifying, fine⟩ := through₁.checked decided success
    have met := Standard.verify_eq_ok_iff.1 fine
    have grows := through₁.journal_grows check member
    refine ⟨check, List.mem_append_left _ member, runner, verifying, met, grows.observations, ?_⟩
    intro same
    have unchanged : (r₁.report plan).snapshot = check.before.world.journal.snapshot :=
      grows.snapshot_eq same
    rw [unchanged]
    exact met
  · intro counts
    obtain ⟨look, member, runner, judging, fine⟩ := through₁.looked decided success
    rw [counts] at fine
    exact ⟨look, List.mem_append_left _ member, runner, judging,
      Standard.no_failures_of_checkHandlers fine⟩

/-! ## A run with a delivery after the check -/

theorem outcome_of_isSuccess {report : Report} (success : report.isSuccess = true) :
    report.outcome = .ok () := by
  unfold Report.isSuccess at success
  split at success
  · assumption
  · cases success

/-- Two workers, of which only the first has a signal, and that is at zero from the start. -/
def hastyDraft : Draft where
  name := "late"
  topic := some "orders"
  subscription := some "audit"
  workers := [{ name := "a", signal := some 0 }, { name := "b" }]
  messages := [⟨.ofNat 0, "note", none⟩, ⟨.ofNat 1, "note", none⟩]
  expectations := [.countPerWorker ⟨[]⟩]
  signals := [.fresh 0]

def hastyPlan : Plan Broker :=
  Broker.plan (hastyDraft.assemble ⟨⟨"orders", "audit"⟩, .shared⟩) {}

/-- A way through it. The deliveries are checked before any loop has moved; the second worker takes
its message while the runner waits for the first to stop. -/
def hastySteps : List Step :=
  List.replicate 11 .runner ++ [.worker 0, .runner] ++ List.replicate 4 (.worker 1)
    ++ [.runner, .worker 1] ++ List.replicate 4 .runner

/-- No delivery was expected, the report is that of a success, and it carries one. -/
theorem successful_report_with_an_unexpected_delivery :
    hastyDraft.build = .ok hastyPlan.scenario ∧
      ∃ r report, Reachable hastyPlan {} r ∧ r.stage = .done report ∧ report.outcome = .ok () ∧
        ∃ e ∈ hastyPlan.scenario.expectations,
          hastyPlan.scenario.standard.violationsOf report.snapshot e ≠ [] := by
  have ended : (((initial hastyPlan {}).steps hastyPlan hastySteps).bind report?).any
      (fun report => report.isSuccess &&
        hastyPlan.scenario.standard.violationsOf report.snapshot (.countPerWorker ⟨[]⟩) =
          [.workerCountMismatch "b" 0 1]) = true := by decide +kernel
  obtain ⟨r, report, run, stage, holds⟩ := exists_of_report? ended
  rw [Bool.and_eq_true, decide_eq_true_eq] at holds
  obtain ⟨success, found⟩ := holds
  refine ⟨rfl, r, report, Reachable.initial.steps run, stage, outcome_of_isSuccess success,
    .countPerWorker ⟨[]⟩, List.mem_singleton_self _, ?_⟩
  rw [found]
  exact List.cons_ne_nil _ _

/-- All the same, its deliveries had been checked. -/
theorem unexpected_delivery_after_the_check :
    ∃ past r report, Through hastyPlan {} past r ∧ r.stage = .done report ∧
      report.outcome = .ok () ∧ ∃ check ∈ past, check.before.stage = .verifying ∧
        hastyPlan.scenario.standard.violationsOf check.before.world.journal.snapshot
          (.countPerWorker ⟨[]⟩) = [] := by
  have ended : (((initial hastyPlan {}).steps hastyPlan hastySteps).bind report?).any
      Report.isSuccess = true := by decide +kernel
  obtain ⟨r, report, run, stage, success⟩ := exists_of_report? ended
  obtain ⟨past, through⟩ := Through.initial.steps run
  have checked := successful_report_was_checked through stage (outcome_of_isSuccess success)
  obtain ⟨⟨check, member, -, verifying, met, -⟩, -⟩ := checked
  exact ⟨_, r, report, through, stage, outcome_of_isSuccess success, check, member, verifying,
    met _ (List.mem_singleton_self _)⟩

end Run

end DeliveryBench
