import DeliveryBench.Broker.Target
import DeliveryBench.Message
import DeliveryBench.Word

/-!
The consumers of one subscription and the dealing of messages among them.

A `Group` owns everything that belongs to one address: the attached consumers in order of
attachment, those that have left, the rotation cursor, the owners of keys, and the messages that
wait for somebody to attach. Nothing outside the group is read or written here, which is why
subscriptions cannot disturb one another.

`Group.dispatch` picks a consumer (`Group.pick`): in key-shared mode the owner of the message's key,
otherwise whoever is next in rotation, who then becomes the owner. A consumer whose holder has
dropped it is noticed only when it is picked; it is detached and the message is dealt again, at
most once per attached consumer (`Group.deal`).
-/

namespace DeliveryBench

/-- One consumer of a subscription. -/
structure Consumer where
  id : ConsumerId
  /-- How many had attached to the subscription before it. -/
  queue : Nat
  /-- The mode in which it subscribed. -/
  mode : Mode
  /-- What has been put on its queue and not been received, the oldest first. -/
  inbox : List Message := []
  /-- False once its holder has dropped it, so that nothing can reach it any more. -/
  listening : Bool := true
deriving DecidableEq

/-- Everything a broker keeps for one address. -/
structure Group where
  mode : Mode
  /-- The attached consumers, in order of attachment. -/
  consumers : List Consumer := []
  /-- Those that were attached once; what is left on their queues can still be received. -/
  departed : List Consumer := []
  /-- How often the rotation has moved on, as a 64-bit word. -/
  cursor : Nat := 0
  /-- The consumer to which each key belongs. -/
  owners : List (String × ConsumerId) := []
  /-- Messages that wait for a consumer, the oldest first. -/
  backlog : List Message := []
deriving DecidableEq

/-- The answer of a poll on a subscription. -/
inductive Reception where
  | message (message : Message)
  /-- Nothing yet. -/
  | pending
  /-- Nothing any more. -/
  | ended
  /-- The poll itself broke down. -/
  | crashed (text : String)
deriving DecidableEq

namespace Group

/-- All consumers that have ever attached. -/
def members (g : Group) : List Consumer :=
  g.consumers ++ g.departed

/-! ## Picking a consumer -/

/-- Takes the next position in rotation. -/
def rotate (g : Group) : Nat × Group :=
  (g.cursor % g.consumers.length, { g with cursor := Word.wrap (g.cursor + 1) })

/-- The position of the attached consumer that owns a key. -/
def ownerIndex? (g : Group) (key : String) : Option Nat :=
  (g.owners.lookup key).bind fun owner => g.consumers.findIdx? fun c => c.id == owner

/-- Makes the consumer at a position the owner of a key. -/
def claim (g : Group) (key : String) (index : Nat) : Group :=
  match g.consumers[index]? with
  | none => g
  | some c => { g with owners := (key, c.id) :: g.owners.filter fun entry => entry.1 != key }

/-- Chooses a position for a message with this key. -/
def pick (g : Group) (key : Option String) : Nat × Group :=
  match g.mode, key with
  | .keyShared, some k =>
    match g.ownerIndex? k with
    | some index => (index, g)
    | none => (g.rotate.1, g.rotate.2.claim k g.rotate.1)
  | _, _ => g.rotate

/-! ## Dealing messages -/

/-- Takes a consumer out of the group, with all its keys. -/
def detach (g : Group) (id : ConsumerId) : Group :=
  { g with
    consumers := g.consumers.filter fun c => c.id != id
    departed := g.departed ++ g.consumers.filter fun c => c.id == id
    owners := g.owners.filter fun entry => entry.2 != id }

/-- Puts a message on the queue of the consumer at a position. -/
def enqueue (g : Group) (index : Nat) (m : Message) : Group :=
  { g with consumers := g.consumers.modify index fun c => { c with inbox := c.inbox ++ [m] } }

/-- Keeps a message for whoever attaches next. -/
def postpone (g : Group) (m : Message) : Group :=
  { g with backlog := g.backlog ++ [m] }

/-- Deals a message in at most so many attempts. -/
def deal : Nat → Group → Message → Group
  | 0, g, m => g.postpone m
  | attempts + 1, g, m =>
    match g.consumers with
    | [] => g.postpone m
    | _ :: _ =>
      let (index, picked) := g.pick m.key
      match picked.consumers[index]? with
      | none => picked.postpone m
      | some c =>
        if c.listening then picked.enqueue index m
        else deal attempts (picked.detach c.id) m

/-- Hands a message to one consumer, or to the backlog if nobody is there to take it. -/
def dispatch (g : Group) (m : Message) : Group :=
  deal g.consumers.length g m

/-! ## Coming and going -/

/-- Whether a consumer that wants this mode has to be turned away. -/
def refuses (g : Group) (mode : Mode) : Bool :=
  g.mode != mode && !g.consumers.isEmpty

/-- Changes to a mode; a change forgets the owners of the keys. -/
def switchTo (g : Group) (mode : Mode) : Group :=
  if g.mode = mode then g else { g with mode, owners := [] }

/-- How many consumers have ever attached. -/
def population (g : Group) : Nat :=
  g.members.length

/-- Adds a consumer, who is dealt everything that has been waiting. -/
def attach (g : Group) (c : Consumer) : Group :=
  g.backlog.foldl dispatch { g with consumers := g.consumers ++ [c], backlog := [] }

/-- Ends the group: everybody leaves and nothing waits any more. -/
def shut (g : Group) : Group :=
  { g with consumers := [], departed := g.departed ++ g.consumers, owners := [], backlog := [] }

/-! ## One consumer -/

/-- The consumer with this queue, attached or not. -/
def consumer? (g : Group) (queue : Nat) : Option Consumer :=
  g.members.find? fun c => c.queue == queue

/-- What is on the queue of this number. -/
def inbox (g : Group) (queue : Nat) : List Message :=
  match g.consumer? queue with
  | none => []
  | some c => c.inbox

/-- Whether the consumer with this queue is attached. -/
def isAttached (g : Group) (queue : Nat) : Bool :=
  g.consumers.any fun c => c.queue == queue

/-- Changes the consumer with this queue. -/
def adjust (g : Group) (queue : Nat) (f : Consumer → Consumer) : Group :=
  let change := fun c : Consumer => if c.queue = queue then f c else c
  { g with consumers := g.consumers.map change, departed := g.departed.map change }

/-- Takes the oldest message from a consumer's queue. An empty queue has ended once the consumer
is no longer attached. -/
def receive (g : Group) (queue : Nat) : Reception × Group :=
  match g.consumer? queue with
  | none => (.ended, g)
  | some c =>
    match c.inbox with
    | m :: rest => (.message m, g.adjust queue fun c => { c with inbox := rest })
    | [] => (if g.isAttached queue then .pending else .ended, g)

/-- The holder of a consumer drops it without a word. -/
def release (g : Group) (queue : Nat) : Group :=
  g.adjust queue fun c => { c with listening := false }

end Group

end DeliveryBench
