import DeliveryBench.Worker

/-!
Workers that are started and stopped together.

Starting attempts every worker, in order, whatever becomes of the ones before it; stopping does the
same. Failures are collected in the order of the workers.
-/

namespace DeliveryBench.Crew

variable {σ : Type}

/-- The failures among some results. -/
def failureOf : Except Failure Unit → List Failure
  | .ok () => []
  | .error f => [f]

/-- Starts one worker for each specification. -/
def startAll (client : Client σ) (stopTimeout : Duration) (target : Target) :
    List WorkerSpec → σ → (List Worker × List Failure) × σ
  | [], broker => (([], []), broker)
  | spec :: specs, broker =>
    let (result, worker, broker) := Worker.start client target { spec, stopTimeout } broker
    let ((workers, failures), broker) := startAll client stopTimeout target specs broker
    ((worker :: workers, failureOf result ++ failures), broker)

/-- Stops every worker; the outcomes are those of the waits for their loops, in order. -/
def stopAll (client : Client σ) :
    List (StopOutcome × Worker) → σ → (List Worker × List Failure) × σ
  | [], broker => (([], []), broker)
  | (outcome, worker) :: rest, broker =>
    let (result, worker, broker) := worker.stop client outcome broker
    let ((workers, failures), broker) := stopAll client rest broker
    ((worker :: workers, failureOf result ++ failures), broker)

/-- The number of running workers. -/
def running (workers : List Worker) : Nat :=
  workers.countP Worker.isRunning

end DeliveryBench.Crew
