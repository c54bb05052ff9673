import DeliveryBench.Scenario

/-!
The verdict on the deliveries of a run: every expectation is checked, in order, and then the
handler failures count, if they are to count.
-/

namespace DeliveryBench

/-- What a verdict is passed against. -/
structure Standard where
  messages : List Message
  expectations : List Expectation
  payloads : Table (List String)

/-- The standard that a scenario sets. -/
def Scenario.standard (s : Scenario) : Standard where
  messages := s.messages
  expectations := s.expectations
  payloads := Scenario.expectedPayloads s.workers

namespace Standard

/-- The violations of one expectation. -/
def violationsOf (standard : Standard) (s : Snapshot) : Expectation → List Violation
  | .keyAffinity => s.splitKeys
  | .countPerKey counts => s.keyCountMismatches counts
  | .countPerWorker counts => s.workerCountMismatches counts
  | .deliveredExactly => s.deliveryViolations standard.messages
  | .expectedPayloads => s.payloadMismatches standard.payloads

/-- The violations of all expectations, in their order. -/
def violations (standard : Standard) (s : Snapshot) : List Violation :=
  standard.expectations.flatMap (standard.violationsOf s)

/-- Whether the deliveries are as expected. -/
def verify (standard : Standard) (s : Snapshot) : Except Failure Unit :=
  Violation.verdict (standard.violations s)

/-- The first of the handler failures, if failures count. -/
def checkHandlers (failOnHandlerError : Bool) (failures : List HandlerFailure) :
    Except Failure Unit :=
  match failOnHandlerError, failures with
  | true, f :: _ => .error f.toFailure
  | _, _ => .ok ()

/-- The verdict on a journal that nobody writes to any more. -/
def judge (standard : Standard) (failOnHandlerError : Bool) (j : Journal) :
    Except Failure Unit :=
  match standard.verify j.snapshot with
  | .error f => .error f
  | .ok () => checkHandlers failOnHandlerError j.handlerFailures

end Standard

end DeliveryBench
