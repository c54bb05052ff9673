import DeliveryBench.Proofs.Journal.Comparison
import DeliveryBench.Proofs.Run.Verdict

/-!
# What the verdict says

A run that has come to verify its deliveries succeeds exactly if they are as every expectation says
and, where handler failures count, no handler has failed (`verdict_is_exact`). What an expectation
says is `Standard.Meets`, which speaks of who was delivered what and knows nothing of numbers,
shards or sorting. The check of each expectation finds nothing exactly if it is met
(`violationsOf_eq_nil_iff`), and whether it is met does not depend on the order of the deliveries
(`meets_congr`).

Caveat: the verdict is that on one journal. What workers record while the runner goes from the
deliveries to the handler failures counts for the latter only.
-/

namespace DeliveryBench

namespace Standard

variable {standard : Standard}

/-! ## What follows from the checks -/

theorem checkHandlers_eq_ok_iff {failOnHandlerError : Bool} {failures : List HandlerFailure} :
    checkHandlers failOnHandlerError failures = .ok () ↔
      (failOnHandlerError = true → failures = []) := by
  constructor
  · rintro ok rfl
    exact no_failures_of_checkHandlers ok
  · intro fine
    cases failOnHandlerError with
    | false => rfl
    | true =>
        rw [fine rfl]
        rfl

theorem verify_of_unmet {s : Snapshot}
    (unmet : ¬ ∀ e ∈ standard.expectations, standard.violationsOf s e = []) :
    standard.verify s = .error (.violated (standard.violations s)) := by
  rw [← List.flatMap_eq_nil_iff, ← List.isEmpty_iff] at unmet
  unfold verify Violation.verdict
  exact if_neg unmet

theorem judge_of_unmet {j : Journal} (failOnHandlerError : Bool)
    (unmet : ¬ ∀ e ∈ standard.expectations, standard.violationsOf j.snapshot e = []) :
    standard.judge failOnHandlerError j = .error (.violated (standard.violations j.snapshot)) := by
  unfold judge
  rw [verify_of_unmet unmet]

theorem judge_of_met {j : Journal} (failOnHandlerError : Bool)
    (met : ∀ e ∈ standard.expectations, standard.violationsOf j.snapshot e = []) :
    standard.judge failOnHandlerError j =
      checkHandlers failOnHandlerError j.handlerFailures := by
  unfold judge
  rw [verify_eq_ok_iff.2 met]

end Standard

namespace Run

variable {σ : Type}

theorem steps_cons {plan : Plan σ} {r r' : Run σ} {s : Step} (first : r.step plan s = some r')
    (taken : List Step) : r.steps plan (s :: taken) = r'.steps plan taken := by
  unfold steps
  rw [List.foldlM_cons, first]
  rfl

/-- The runner goes by the verdict on the journal: it takes one step if the deliveries are not as
expected, and two if they are. -/
theorem steps_of_verifying {plan : Plan σ} {r : Run σ} (stage : r.stage = .verifying) :
    ∃ count, r.steps plan (List.replicate count .runner) =
      some (r.tearDown (plan.scenario.standard.judge plan.settings.failOnHandlerError
        r.world.journal)) := by
  have first : r.step plan .runner = some (r.verify plan) := by
    unfold step runnerStep
    rw [stage]
  by_cases met : ∀ e ∈ plan.scenario.standard.expectations,
      plan.scenario.standard.violationsOf r.world.journal.snapshot e = []
  · have passed : r.verify plan = { r with stage := .judging } := by
      unfold verify
      rw [Standard.verify_eq_ok_iff.2 met]
    have second : step plan { r with stage := .judging } .runner =
        some (judge plan { r with stage := .judging }) := rfl
    refine ⟨2, (steps_cons first _).trans ?_⟩
    rw [passed, Standard.judge_of_met _ met]
    exact steps_cons second []
  · have failed : r.verify plan = r.tearDown (.error (.violated
        (plan.scenario.standard.violations r.world.journal.snapshot))) := by
      unfold verify
      rw [Standard.verify_of_unmet met]
    refine ⟨1, (steps_cons first _).trans ?_⟩
    rw [failed, Standard.judge_of_unmet _ met]
    rfl

/-- **The verdict is exact.** Whatever has been written into a journal, in whatever order the shards
are kept: the check of an expectation finds nothing exactly if the deliveries are as it says, and
the verdict is a success exactly if they are as every expectation says and, where handler failures
count, there is none. If the deliveries are not as expected, the verdict is the list of all
violations, in the order of the expectations, whatever the handlers did. Otherwise, where a failure
counts, it is that of the first delivery on which a handler failed. A run that has come to verify
its deliveries turns to the teardown with this verdict. -/
theorem verdict_is_exact (standard : Standard) (failOnHandlerError : Bool)
    {entries : List Journal.Entry} {j : Journal}
    (read : (Journal.writeAll {} entries).2.Rearranged j) :
    let verdict := standard.judge failOnHandlerError j
    let deliveries := Journal.deliveriesIn entries
    let failures := Journal.failuresIn entries
    (∀ e, standard.violationsOf j.snapshot e = [] ↔ standard.Meets deliveries e) ∧
      (verdict = .ok () ↔
        standard.MeetsAll deliveries ∧ (failOnHandlerError = true → failures = [])) ∧
      (¬ standard.MeetsAll deliveries → verdict =
        .error (.violated (standard.expectations.flatMap (standard.violationsOf j.snapshot)))) ∧
      (standard.MeetsAll deliveries → failOnHandlerError = true → failures ≠ [] →
        ∃ f ∈ failures, (∀ g ∈ failures, f.sequence ≤ g.sequence) ∧
          verdict = .error (.handler f.worker f.id f.reason)) ∧
      ∀ {σ : Type} (plan : Plan σ) (r : Run σ), plan.scenario.standard = standard →
        plan.settings.failOnHandlerError = failOnHandlerError → r.stage = .verifying →
        r.world.journal = j →
        ∃ count, r.steps plan (List.replicate count .runner) = some (r.tearDown verdict) := by
  intro verdict deliveries failures
  have keeps : j.Keeps deliveries := (Journal.keeps_new.writeAll entries).rearranged read
  have blames : j.Blames failures := (Journal.blames_new.writeAll entries).rearranged read
  have each (e : Expectation) :
      standard.violationsOf j.snapshot e = [] ↔ standard.Meets deliveries e :=
    (standard.violationsOf_eq_nil_iff _ e).trans (Standard.meets_congr keeps.deliveries_perm e)
  have all : (∀ e ∈ standard.expectations, standard.violationsOf j.snapshot e = []) ↔
      standard.MeetsAll deliveries :=
    forall₂_congr fun e _ => each e
  have unfailed : j.handlerFailures = [] ↔ failures = [] := by
    rw [← List.length_eq_zero_iff, blames.handlerFailures_perm.length_eq, List.length_eq_zero_iff]
  have violated (unmet : ¬ standard.MeetsAll deliveries) :
      verdict = .error (.violated (standard.violations j.snapshot)) :=
    Standard.judge_of_unmet _ (mt all.1 unmet)
  have looked (met : standard.MeetsAll deliveries) :
      verdict = Standard.checkHandlers failOnHandlerError j.handlerFailures :=
    Standard.judge_of_met _ (all.2 met)
  refine ⟨each, ?_, violated, ?_, ?_⟩
  · by_cases met : standard.MeetsAll deliveries
    · rw [looked met, Standard.checkHandlers_eq_ok_iff, unfailed]
      exact (and_iff_right met).symm
    · rw [violated met]
      constructor
      · intro ok
        cases ok
      · intro fine
        exact absurd fine.1 met
  · intro met counts some
    obtain ⟨f, rest, shown, member, least⟩ := blames.exists_first some
    refine ⟨f, member, least, ?_⟩
    rw [looked met, counts, shown]
    rfl
  · rintro σ plan r rfl rfl stage rfl
    exact steps_of_verifying stage

/-- A key that went to two workers, both of whose handlers failed, judged by two standards: under
the one the split and the counts are violations, under the other the first failure counts. -/
theorem verdict_on_two_failures :
    let note := fun n => (⟨.ofNat n, "note", some "eu"⟩ : Message)
    let entries : List Journal.Entry := [.delivery "b" (note 0), .delivery "a" (note 1),
      .failure "a" (note 1) 1 "full", .failure "b" (note 0) 0 "slow"]
    let written := (Journal.writeAll {} entries).2
    let j := { written with observed := written.observed.reverse }
    let counted : Standard := ⟨[note 0, note 1], [.keyAffinity, .deliveredExactly,
      .countPerWorker ⟨[("a", 1)]⟩], ⟨[]⟩⟩
    let listed : Standard := ⟨[note 0, note 1], [.deliveredExactly, .expectedPayloads],
      ⟨[("a", ["note"])]⟩⟩
    written.Rearranged j ∧
      counted.judge true j =
        .error (.violated [.keySplit "eu" ["a", "b"], .workerCountMismatch "b" 0 1]) ∧
      listed.MeetsAll (Journal.deliveriesIn entries) ∧
      listed.judge true j = .error (.handler "b" (.ofNat 0) "slow") := by
  intro note entries written j counted listed
  have read : written.Rearranged j := ⟨List.reverse_perm _, .refl _, rfl⟩
  obtain ⟨each, -, violated, -⟩ := verdict_is_exact counted true read
  obtain ⟨each', -, -, failed, -⟩ := verdict_is_exact listed true read
  have split : counted.violationsOf j.snapshot .keyAffinity ≠ [] := by decide
  have unmet : ¬ counted.MeetsAll (Journal.deliveriesIn entries) :=
    fun met => split ((each _).2 (met _ List.mem_cons_self))
  have fine : ∀ e ∈ listed.expectations, listed.violationsOf j.snapshot e = [] := by decide
  have met : listed.MeetsAll (Journal.deliveriesIn entries) :=
    fun e member => (each' e).1 (fine e member)
  obtain ⟨f, member, least, verdict⟩ := failed met rfl (by decide)
  have first : f = ⟨"b", .ofNat 0, "note", "slow", 0⟩ := by
    have either : ∀ f ∈ Journal.failuresIn entries,
        (∀ g ∈ Journal.failuresIn entries, f.sequence ≤ g.sequence) →
        f = ⟨"b", .ofNat 0, "note", "slow", 0⟩ := by decide
    exact either f member least
  refine ⟨read, (violated unmet).trans (by decide), met, ?_⟩
  rw [verdict, first]

end Run

end DeliveryBench
