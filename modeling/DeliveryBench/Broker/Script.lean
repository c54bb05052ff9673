import DeliveryBench.Broker.Client

/-!
A broker in memory with scripted misbehaviour on the way to it.

A `Script` says which publish calls fail, get lost or are sent twice, which subscriptions break
down when they receive a message, and what `close` reports. `ScriptedBroker.client` and
`ScriptedBroker.producer` follow it; with the empty script they behave as the broker itself.
-/

namespace DeliveryBench

/-- What is to go wrong. Calls and attempts are counted from 1. -/
structure Script where
  /-- Publish calls that fail. -/
  failAt : List Nat := []
  /-- Publish calls that report success and send nothing. -/
  dropAt : List Nat := []
  /-- Publish calls whose message is sent twice. -/
  duplicateAt : List Nat := []
  /-- Subscribe attempts whose subscription breaks down on its first message. -/
  crashOnReceive : List Nat := []
  /-- What `close` reports after it has closed the broker. -/
  closeError : Option BrokerError := none
deriving DecidableEq

/-- A broker together with what the script has to remember. -/
structure ScriptedBroker where
  broker : Broker := {}
  /-- Publish calls so far. -/
  publishCalls : Nat := 0
  /-- The subscriptions that break down when they receive. -/
  fragile : List Ticket := []
deriving DecidableEq

namespace ScriptedBroker

/-- Subscribes and notes whether the new subscription is to break down. -/
def subscribe (script : Script) (target : Target) (s : ScriptedBroker) :
    Except BrokerError Ticket × ScriptedBroker :=
  let (result, broker) := s.broker.subscribe target
  match result with
  | .error e => (.error e, { s with broker })
  | .ok ticket =>
    let fragile :=
      if script.crashOnReceive.contains broker.attempts then ticket :: s.fragile else s.fragile
    (.ok ticket, { s with broker, fragile })

/-- Receives; a fragile subscription takes the message and breaks down. -/
def receive (ticket : Ticket) (s : ScriptedBroker) : Reception × ScriptedBroker :=
  let (reception, broker) := s.broker.receive ticket
  match reception with
  | .message m =>
    if s.fragile.contains ticket then
      (.crashed ("receive exploded on " ++ m.payload), { s with broker })
    else (.message m, { s with broker })
  | other => (other, { s with broker })

/-- Publishes as the script has it for this call. -/
def publish (script : Script) (topic : String) (m : Message) (s : ScriptedBroker) :
    Except BrokerError Unit × ScriptedBroker :=
  let call := s.publishCalls + 1
  let s := { s with publishCalls := call }
  if script.failAt.contains call then
    (.error (.publishFailed topic ("scripted failure on publish " ++ toString call)), s)
  else if script.dropAt.contains call then (.ok (), s)
  else
    let (result, broker) := s.broker.publish topic m
    match result with
    | .error e => (.error e, { s with broker })
    | .ok () =>
      if script.duplicateAt.contains call then
        let (result, broker) := broker.publish topic m
        (result, { s with broker })
      else (.ok (), { s with broker })

/-- Closes the broker and reports what the script says. -/
def close (script : Script) (s : ScriptedBroker) : Except BrokerError Unit × ScriptedBroker :=
  let (result, broker) := s.broker.close
  match script.closeError with
  | some e => (.error e, { s with broker })
  | none => (result, { s with broker })

/-- The scripted broker, seen by consumers. -/
def client (script : Script) : Client ScriptedBroker where
  subscribe := subscribe script
  receive := receive
  unsubscribe ticket s :=
    let (result, broker) := s.broker.unsubscribe ticket
    (result, { s with broker })
  release ticket s := { s with broker := s.broker.release ticket }
  close := close script
  advance s := s

/-- The scripted broker, seen by producers. -/
def producer (script : Script) : Producer ScriptedBroker where
  publish := publish script

end ScriptedBroker

end DeliveryBench
