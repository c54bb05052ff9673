/-!
Where a consumer attaches: a topic, a subscription on it, and the mode in which the consumers of
the subscription share its messages. Also the errors that a broker reports.
-/

namespace DeliveryBench

/-- How the consumers of one subscription share its messages. -/
inductive Mode where
  /-- Consumers take turns. -/
  | shared
  /-- Messages with one key all go to one consumer; the others are dealt out in turn. -/
  | keyShared
deriving DecidableEq, Repr

namespace Mode

/-- The name of a mode in texts. -/
def name : Mode → String
  | .shared => "shared"
  | .keyShared => "key_shared"

/-- The mode that bears this name. -/
def ofName? (s : String) : Option Mode :=
  if s = "shared" then some .shared
  else if s = "key_shared" then some .keyShared
  else none

theorem ofName?_eq_some_iff {s : String} {m : Mode} : ofName? s = some m ↔ s = m.name := by
  unfold ofName?
  constructor
  · intro h
    split at h
    · simp_all [name]
      subst h
      rfl
    · split at h
      · simp_all [name]
        subst h
        rfl
      · simp at h
  · rintro rfl
    cases m <;> decide

end Mode

/-- A subscription on a topic. -/
structure Address where
  topic : String
  subscription : String
deriving DecidableEq, Repr

/-- An address together with the mode in which a consumer wants to attach there. -/
structure Target extends Address where
  mode : Mode
deriving DecidableEq, Repr

/-- The number under which a broker knows a consumer. It is a 64-bit word, so that numbers come
round again, though queues do not. -/
abbrev ConsumerId := Nat

/-- What a successful subscribe hands out: the right to receive as one consumer. -/
structure Ticket where
  address : Address
  consumer : ConsumerId
  /-- The number of its queue among all that the subscription has ever had. -/
  queue : Nat
deriving DecidableEq, Repr

/-- The failures of broker calls. -/
inductive BrokerError where
  | subscribeFailed (address : Address) (reason : String)
  /-- The subscription has consumers that attached in another mode. -/
  | modeMismatch (address : Address) (existing requested : Mode)
  | publishFailed (topic reason : String)
  | unsubscribeFailed (subscription reason : String)
  | closed
deriving DecidableEq, Repr

/-- The text of a broker error. -/
def BrokerError.message : BrokerError → String
  | .subscribeFailed address reason =>
    "Failed to subscribe `" ++ address.subscription ++ "` on topic `" ++ address.topic ++ "`: "
      ++ reason
  | .modeMismatch address existing requested =>
    "Subscription `" ++ address.subscription ++ "` on topic `" ++ address.topic ++ "` is "
      ++ existing.name ++ ", cannot attach as " ++ requested.name
  | .publishFailed topic reason => "Failed to publish to topic `" ++ topic ++ "`: " ++ reason
  | .unsubscribeFailed subscription reason =>
    "Failed to unsubscribe `" ++ subscription ++ "`: " ++ reason
  | .closed => "Broker client is closed"

end DeliveryBench
