import DeliveryBench.Message.Id
import DeliveryBench.Text.Quoted

/-!
Messages, and the names under which test resources are created.

A message never changes once it is made. Its key, if it has one, ties it to the other messages of
that key; the empty text is a key like any other.
-/

namespace DeliveryBench

/-- A message that a producer publishes once. -/
structure Message where
  id : MessageId
  payload : String
  key : Option String := none
deriving DecidableEq

namespace Mint

/-- A new message with an identifier of its own. -/
def message (mint : Mint) (payload : String) (key : Option String) : Message × Mint :=
  (⟨mint.next.1, payload, key⟩, mint.next.2)

/-- The last twelve digits of a fresh identifier. -/
def suffix (mint : Mint) : String × Mint :=
  (String.ofList (mint.next.1.digits.drop 20), mint.next.2)

/-- A topic name of its own for every call. -/
def topicName (mint : Mint) (lead : String) : String × Mint :=
  (lead ++ "-topic-" ++ mint.suffix.1, mint.suffix.2)

/-- A subscription name of its own for every call. -/
def subscriptionName (mint : Mint) (lead : String) : String × Mint :=
  (lead ++ "-sub-" ++ mint.suffix.1, mint.suffix.2)

end Mint

end DeliveryBench
