import DeliveryBench.Run

/-!
A run with a log of what it asks of its broker.

`Plan.logged` is a plan whose calls are written down, each with its result, next to the state of the
broker. Polls are not written down, nor are subscriptions that are dropped, which has no result.
Writing down changes nothing else.
-/

namespace DeliveryBench

/-- A call to a broker, with its result. -/
inductive Deed where
  | subscribed (result : Except BrokerError Ticket)
  | published (topic : String) (m : Message) (result : Except BrokerError Unit)
  | unsubscribed (ticket : Ticket) (result : Except BrokerError Unit)
  | closed (result : Except BrokerError Unit)

def Deed.isPublished : Deed → Bool
  | .published .. => true
  | _ => false

/-- A broker, and what it has been asked to do, oldest first. -/
structure Logged (σ : Type) where
  broker : σ
  log : List Deed := []

variable {σ : Type}

def Client.logged (client : Client σ) : Client (Logged σ) where
  subscribe target s :=
    let (result, broker) := client.subscribe target s.broker
    (result, ⟨broker, s.log ++ [.subscribed result]⟩)
  receive ticket s :=
    let (reception, broker) := client.receive ticket s.broker
    (reception, { s with broker })
  unsubscribe ticket s :=
    let (result, broker) := client.unsubscribe ticket s.broker
    (result, ⟨broker, s.log ++ [.unsubscribed ticket result]⟩)
  release ticket s := { s with broker := client.release ticket s.broker }
  close s :=
    let (result, broker) := client.close s.broker
    (result, ⟨broker, s.log ++ [.closed result]⟩)
  advance s := { s with broker := client.advance s.broker }

def Producer.logged (producer : Producer σ) : Producer (Logged σ) where
  publish topic m s :=
    let (result, broker) := producer.publish topic m s.broker
    (result, ⟨broker, s.log ++ [.published topic m result]⟩)

def Plan.logged (plan : Plan σ) : Plan (Logged σ) where
  scenario := plan.scenario
  settings := plan.settings
  client := plan.client.logged
  producer := plan.producer.logged

end DeliveryBench
