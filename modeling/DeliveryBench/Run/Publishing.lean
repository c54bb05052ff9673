import DeliveryBench.Run

/-!
Publishing in one go.

A run takes one step for each message, and others may take steps in between. Here a whole list is
published with nobody else having a turn: in turn, up to the first message that fails
(`Producer.publishInTurn`), or together, whatever becomes of each (`Producer.publishTogether`). The
first failure is what it comes to, either way.
-/

namespace DeliveryBench

variable {σ : Type}

namespace Producer

/-- Publishes messages one after the other, up to the first that fails. -/
def publishInTurn (p : Producer σ) (topic : String) :
    List Message → σ → Except Failure Unit × σ
  | [], s => (.ok (), s)
  | m :: rest, s =>
    match p.publish topic m s with
    | (.ok (), s) => p.publishInTurn topic rest s
    | (.error e, s) => (.error (.publish m.id e), s)

/-- Publishes all messages, in order; the first failure counts. -/
def publishTogether (p : Producer σ) (topic : String) :
    List Message → σ → Except Failure Unit × σ
  | [], s => (.ok (), s)
  | m :: rest, s =>
    let (result, s) := p.publish topic m s
    let (others, s) := p.publishTogether topic rest s
    match result with
    | .ok () => (others, s)
    | .error e => (.error (.publish m.id e), s)

/-- Publishes messages in one of the two ways. -/
def publishAll (p : Producer σ) : PublishMode → String → List Message → σ →
    Except Failure Unit × σ
  | .sequential => p.publishInTurn
  | .concurrent => p.publishTogether

end Producer

/-- How a run goes on from what publishing has come to. -/
def Run.afterPublishing (plan : Plan σ) (r : Run σ) : Except Failure Unit × σ → Run σ
  | (.ok (), broker) => afterPublish plan { r with world := r.world.withBroker broker } none
  | (.error f, broker) => afterPublish plan { r with world := r.world.withBroker broker } (some f)

end DeliveryBench
