import DeliveryBench.Broker.Target
import DeliveryBench.Duration.Brief
import DeliveryBench.Journal.Violation

/-!
The failures that the bench reports, and their texts.
-/

namespace DeliveryBench

/-- A failure of a worker, of a run, or of its preparation. -/
inductive Failure where
  | start (worker : String) (source : BrokerError)
  | handler (worker : String) (id : MessageId) (reason : String)
  | stop (worker : String) (reason : String)
  /-- The deliveries that were waited for did not all come in time. -/
  | waitTimeout (pending : Nat) (timeout : Duration)
  | violated (violations : List Violation)
  | publish (id : MessageId) (source : BrokerError)
  | invalidScenario (reason : String)
  | invalidState (reason : String)
  | settings (reason : String)
deriving DecidableEq

namespace Failure

/-- The text of a failure. -/
def message : Failure → String
  | .start worker source => "Worker `" ++ worker ++ "` failed to start: " ++ source.message
  | .handler worker id reason =>
    "Handler of worker `" ++ worker ++ "` failed on message " ++ id.text ++ ": " ++ reason
  | .stop worker reason => "Worker `" ++ worker ++ "` failed to stop: " ++ reason
  | .waitTimeout pending timeout =>
    "Completion not reached within " ++ timeout.brief ++ ", " ++ toString pending
      ++ " deliveries still pending"
  | .violated violations =>
    toString violations.length ++ " invariant violation(s): "
      ++ "; ".intercalate (violations.map Violation.message)
  | .publish id source => "Failed to publish message " ++ id.text ++ ": " ++ source.message
  | .invalidScenario reason => "Invalid scenario: " ++ reason
  | .invalidState reason => "Invalid state: " ++ reason
  | .settings reason => "Configuration error: " ++ reason

/-- The broker error that caused a failure. -/
def source? : Failure → Option BrokerError
  | .start _ source | .publish _ source => some source
  | _ => none

/-- The violations of a failure. -/
def violations : Failure → List Violation
  | .violated violations => violations
  | _ => []

end Failure

/-- A handler failure as the failure of a run. -/
def HandlerFailure.toFailure (f : HandlerFailure) : Failure :=
  .handler f.worker f.id f.reason

/-- The verdict that a list of violations amounts to. -/
def Violation.verdict (violations : List Violation) : Except Failure Unit :=
  if violations.isEmpty then .ok () else .error (.violated violations)

theorem Violation.verdict_eq_ok_iff {violations : List Violation} :
    verdict violations = .ok () ↔ violations = [] := by
  unfold verdict
  cases violations with
  | nil => exact ⟨fun _ => rfl, fun _ => rfl⟩
  | cons => exact ⟨nofun, nofun⟩

end DeliveryBench
