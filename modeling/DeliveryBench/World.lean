import DeliveryBench.Broker.Client
import DeliveryBench.Journal
import DeliveryBench.Worker.Spec

/-!
What all workers of a bench share: the broker, the journal, the completion signals, and the gates
at which handlers may have to wait.
-/

namespace DeliveryBench

/-- The shared state around a broker of any kind. -/
structure World (σ : Type) where
  broker : σ
  journal : Journal := {}
  /-- The completion signals, by place. -/
  signals : List Signal := []
  /-- The gates that have been opened; a gate is never closed again. -/
  openGates : List String := []

namespace World

variable {σ : Type}

/-- Counts one delivery on a signal. What is left is logged only. -/
def countDown (w : World σ) (signal : Option SignalId) : World σ :=
  match signal with
  | none => w
  | some id => { w with signals := w.signals.modify id fun s => s.countDown.2 }

/-- The deliveries still missing on a signal. -/
def count (w : World σ) (id : SignalId) : Nat :=
  match w.signals[id]? with
  | none => 0
  | some signal => signal.count

/-- Whether a handler that needs this gate can go on. -/
def isOpen (w : World σ) (gate : Option String) : Bool :=
  match gate with
  | none => true
  | some name => w.openGates.contains name

/-- Opens a gate for good. -/
def openGate (w : World σ) (name : String) : World σ :=
  { w with openGates := name :: w.openGates }

/-- Changes the broker. -/
def withBroker (w : World σ) (broker : σ) : World σ :=
  { w with broker }

@[simp] theorem countDown_broker (w : World σ) (signal : Option SignalId) :
    (w.countDown signal).broker = w.broker := by
  unfold countDown
  split <;> rfl

@[simp] theorem countDown_journal (w : World σ) (signal : Option SignalId) :
    (w.countDown signal).journal = w.journal := by
  unfold countDown
  split <;> rfl

end World

end DeliveryBench
