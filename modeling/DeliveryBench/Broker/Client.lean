import DeliveryBench.Broker

/-!
The two views of a broker that a test run needs, as records of functions over any kind of state.

A `Client` attaches consumers and closes the connection; a `Producer` publishes. Everything that is
said about runs is said for all clients and producers, whatever their calls return. A poll that has
nothing to give leaves the state as it is; whatever changes without a call is `Client.advance`. The
broker in memory, which never does anything of its own accord, is one of them (`Broker.client`,
`Broker.producer`).
-/

namespace DeliveryBench

/-- The calls of those who consume. -/
structure Client (σ : Type) where
  subscribe : Target → σ → Except BrokerError Ticket × σ
  receive : Ticket → σ → Reception × σ
  unsubscribe : Ticket → σ → Except BrokerError Unit × σ
  /-- The holder of a subscription drops it. -/
  release : Ticket → σ → σ
  close : σ → Except BrokerError Unit × σ
  /-- What the broker does of its own accord, at any moment. -/
  advance : σ → σ

/-- The call of those who produce. -/
structure Producer (σ : Type) where
  publish : String → Message → σ → Except BrokerError Unit × σ

namespace Broker

/-- The broker in memory, seen by consumers. -/
def client : Client Broker where
  subscribe target b := b.subscribe target
  receive ticket b := b.receive ticket
  unsubscribe ticket b := b.unsubscribe ticket
  release ticket b := b.release ticket
  close b := b.close
  advance b := b

/-- The broker in memory, seen by producers. -/
def producer : Producer Broker where
  publish topic m b := b.publish topic m

end Broker

end DeliveryBench
