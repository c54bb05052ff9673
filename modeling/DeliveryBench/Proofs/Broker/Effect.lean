import DeliveryBench.Broker.History
import DeliveryBench.Proofs.Broker.Orderly
import DeliveryBench.Tally

/-!
# What a call does to one subscription

A broker is a table of groups, and a call looks at one address or one topic. The lemmas
`group?_subscribe`, `group?_publish`, … say what each call makes of the group at any address.
`Moment.effect` puts them together: whatever is called, the group at an address either stays as it
is or goes through one of the six changes of `Moment.Effect`. Statements about one subscription over
a whole history need no other fact about the broker.
-/

namespace DeliveryBench

namespace Broker

variable {b : Broker}

/-! ## Tables of groups -/

theorem group?_adjustGroup (b : Broker) (address : Address) (f : Group → Group) (a : Address) :
    (b.adjustGroup address f).group? a =
      if a = address then (b.group? a).map f else b.group? a := by
  unfold group? adjustGroup
  rw [lookup_map (by intro entry; split <;> rfl)]
  split <;> simp

theorem group?_withGroup (b : Broker) (target : Target) (a : Address) :
    (b.withGroup target).group? a =
      if a = target.toAddress then some ((b.group? a).getD { mode := target.mode })
      else b.group? a := by
  cases present : b.group? target.toAddress with
  | some g =>
      simp only [withGroup, present]
      split
      · rename_i same
        rw [same, present]
        rfl
      · rfl
  | none =>
      simp only [withGroup, present]
      unfold group? at present ⊢
      rw [List.lookup_append]
      split
      · rename_i same
        subst same
        rw [present]
        simp
      · rename_i other
        have unlike : (a == target.toAddress) = false := beq_false_of_ne other
        simp [List.lookup_cons, unlike]

/-! ## What a call leaves alone -/

theorem subscribe_snd_eq (b : Broker) (target : Target) :
    (b.subscribe target).2 = { b with
      groups := (b.subscribe target).2.groups
      nextConsumer := (b.subscribe target).2.nextConsumer
      attempts := b.attempts + 1 } := by
  unfold subscribe
  dsimp only
  split
  · rfl
  · unfold adjustGroup withGroup
    split <;> rfl

theorem publish_snd_eq (b : Broker) (topic : String) (m : Message) :
    (b.publish topic m).2 = { b with
      groups := (b.publish topic m).2.groups
      published := (b.publish topic m).2.published } := by
  unfold publish
  split
  · rfl
  · split <;> rfl

theorem receive_snd_eq (b : Broker) (ticket : Ticket) :
    (b.receive ticket).2 = { b with groups := (b.receive ticket).2.groups } := by
  unfold receive
  split <;> rfl

theorem unsubscribe_snd_eq (b : Broker) (ticket : Ticket) :
    (b.unsubscribe ticket).2 = { b with
      groups := (b.unsubscribe ticket).2.groups
      released := (b.unsubscribe ticket).2.released } := by
  unfold unsubscribe
  split <;> rfl

theorem close_snd_eq (b : Broker) :
    b.close.2 = { b with groups := b.close.2.groups, isClosed := true } := by
  unfold close
  split
  · rename_i isClosed
    rw [← isClosed]
  · rfl

/-! ## Single calls -/

theorem subscribe_of_refused {target : Target} {e : BrokerError}
    (refused : b.refusal? (b.attempts + 1) target = some e) :
    b.subscribe target = (.error e, { b with attempts := b.attempts + 1 }) := by
  simp only [subscribe, refused]

theorem subscribe_fst_ok {target : Target}
    (accepted : b.refusal? (b.attempts + 1) target = none) :
    (b.subscribe target).1 =
      .ok ⟨target.toAddress, b.nextConsumer, b.population target.toAddress⟩ := by
  simp only [subscribe, accepted]

theorem group?_subscribe_ok {target : Target}
    (accepted : b.refusal? (b.attempts + 1) target = none) (a : Address) :
    (b.subscribe target).2.group? a =
      if a = target.toAddress then
        some ((((b.group? a).getD { mode := target.mode }).switchTo target.mode).attach
          { id := b.nextConsumer, queue := b.population target.toAddress, mode := target.mode })
      else b.group? a := by
  simp only [subscribe, accepted]
  have joined := group?_adjustGroup (({ b with attempts := b.attempts + 1 } : Broker).withGroup
    target) target.toAddress (fun g => (g.switchTo target.mode).attach
      { id := b.nextConsumer, queue := b.population target.toAddress, mode := target.mode }) a
  rw [group?_withGroup] at joined
  refine joined.trans ?_
  split <;> rfl

theorem group?_publish_ok {topic : String} {m : Message} (isOpen : b.isClosed = false)
    (works : b.faults.publish = false) (a : Address) :
    (b.publish topic m).2.group? a =
      (b.group? a).map fun g => if a.topic = topic then g.dispatch m else g := by
  unfold publish group?
  rw [if_neg (by simp [isOpen]), if_neg (by simp [works])]
  dsimp only
  rw [lookup_map (by intro entry; split <;> rfl)]
  congr 1
  funext g
  split <;> rfl

theorem group?_receive (b : Broker) (ticket : Ticket) (a : Address) :
    (b.receive ticket).2.group? a =
      if a = ticket.address then (b.group? a).map fun g => (g.receive ticket.queue).2
      else b.group? a := by
  cases present : b.group? ticket.address with
  | none =>
      simp only [receive, present]
      split
      · rename_i same
        rw [same, present]
        rfl
      · rfl
  | some g =>
      simp only [receive, present]
      exact group?_adjustGroup b ticket.address _ a

theorem receive_fst {ticket : Ticket} {g : Group} (present : b.group? ticket.address = some g) :
    (b.receive ticket).1 = (g.receive ticket.queue).1 := by
  unfold receive
  rw [present]

theorem receive_fst_of_none {ticket : Ticket} (absent : b.group? ticket.address = none) :
    (b.receive ticket).1 = .ended := by
  unfold receive
  rw [absent]

theorem group?_unsubscribe_ok {ticket : Ticket} (works : b.faults.unsubscribe = false)
    (a : Address) :
    (b.unsubscribe ticket).2.group? a =
      if a = ticket.address then (b.group? a).map fun g => g.detach ticket.consumer
      else b.group? a := by
  unfold unsubscribe
  rw [if_neg (by simp [works])]
  exact group?_adjustGroup b ticket.address (fun g => g.detach ticket.consumer) a

theorem group?_close_of_open (isOpen : b.isClosed = false) (a : Address) :
    b.close.2.group? a = (b.group? a).map Group.shut := by
  unfold close
  rw [if_neg (by simp [isOpen])]
  exact lookup_map fun _ => rfl

theorem group?_release (b : Broker) (ticket : Ticket) (a : Address) :
    (b.release ticket).group? a =
      if a = ticket.address then (b.group? a).map fun g => g.release ticket.queue
      else b.group? a :=
  group?_adjustGroup b ticket.address (fun g => g.release ticket.queue) a

/-- The group that a subscribe meets or makes. -/
def groupFor (b : Broker) (target : Target) : Group :=
  (b.group? target.toAddress).getD { mode := target.mode }

theorem population_eq (b : Broker) (target : Target) :
    b.population target.toAddress = (b.groupFor target).population := by
  unfold population groupFor
  cases b.group? target.toAddress <;> rfl

theorem refusal?_eq_none_iff {attempt : Nat} {target : Target} :
    b.refusal? attempt target = none ↔
      b.isClosed = false ∧ b.faults.attempts.contains attempt = false ∧
        (b.groupFor target).refuses target.mode = false := by
  unfold refusal? groupFor
  cases b.isClosed with
  | true => simp
  | false =>
      cases b.faults.attempts.contains attempt with
      | true => simp
      | false =>
          cases b.group? target.toAddress with
          | none => simp [Group.refuses]
          | some g => cases refused : g.refuses target.mode <;> simp [refused]

end Broker

/-! ## Any call -/

namespace Moment

/-- What a call can make of the group at an address. -/
inductive Effect (x : Moment) (address : Address) : Option Group → Option Group → Prop
  /-- The call concerns something else, or it fails. -/
  | untouched {g : Option Group} :
    x.published? address = none → (∀ queue, x.received? address queue = none) →
    x.Effect address g g
  | joined {g : Option Group} {old : Group} {mode : Mode} {id : ConsumerId} :
    x.call = .subscribe ⟨address, mode⟩ → x.before.isClosed = false →
    x.answer = .ticket (.ok ⟨address, id, old.population⟩) →
    old = g.getD { mode := mode } → old.refuses mode = false →
    x.Effect address g
      (some ((old.switchTo mode).attach { id := id, queue := old.population, mode := mode }))
  | dealt {g : Group} {m : Message} :
    x.call = .publish address.topic m → x.before.isClosed = false → x.answer = .result (.ok ()) →
    x.Effect address (some g) (some (g.dispatch m))
  | polled {g : Group} {ticket : Ticket} :
    x.call = .receive ticket → ticket.address = address →
    x.answer = .reception (g.receive ticket.queue).1 →
    x.Effect address (some g) (some (g.receive ticket.queue).2)
  | left {g : Group} {ticket : Ticket} :
    x.call = .unsubscribe ticket → ticket.address = address → x.answer = .result (.ok ()) →
    x.Effect address (some g) (some (g.detach ticket.consumer))
  | dropped {g : Group} {ticket : Ticket} :
    x.call = .release ticket → ticket.address = address →
    x.Effect address (some g) (some (g.release ticket.queue))
  | shut {g : Group} : x.call = .close → x.Effect address (some g) (some g.shut)

variable {x : Moment} {address : Address}

theorem published?_eq_none (other : ∀ topic m, x.call ≠ .publish topic m) :
    x.published? address = none := by
  unfold published?
  split
  · rename_i topic m call _
    exact absurd call (other topic m)
  · rfl

theorem received?_eq_none (other : ∀ ticket, x.call ≠ .receive ticket) (queue : Nat) :
    x.received? address queue = none := by
  unfold received?
  split
  · rename_i ticket m call _
    exact absurd call (other ticket)
  · rfl

/-- A call that leaves a group as it is, and is neither a publish nor a receive. -/
theorem Effect.of_same (same : x.after.group? address = x.before.group? address)
    (noPublish : ∀ topic m, x.call ≠ .publish topic m)
    (noReceive : ∀ ticket, x.call ≠ .receive ticket) :
    x.Effect address (x.before.group? address) (x.after.group? address) := by
  rw [same]
  exact .untouched (published?_eq_none noPublish) (received?_eq_none noReceive)

/-- A call that changes a group if it is there, and is neither a publish nor a receive. -/
theorem Effect.of_map {f : Group → Group}
    (after : x.after.group? address = (x.before.group? address).map f)
    (noPublish : ∀ topic m, x.call ≠ .publish topic m)
    (noReceive : ∀ ticket, x.call ≠ .receive ticket)
    (changed : ∀ g, x.Effect address (some g) (some (f g))) :
    x.Effect address (x.before.group? address) (x.after.group? address) := by
  cases present : x.before.group? address with
  | none =>
      rw [← present]
      exact .of_same (by rw [after, present]; rfl) noPublish noReceive
  | some g =>
      rw [after, present]
      exact changed g

private theorem effect_subscribe (b : Broker) (target : Target) (address : Address) :
    Effect ⟨b, .subscribe target⟩ address (b.group? address)
      ((b.subscribe target).2.group? address) := by
  cases refusal : b.refusal? (b.attempts + 1) target with
  | some e =>
      apply Effect.of_same (x := ⟨b, .subscribe target⟩) _ nofun nofun
      show (b.subscribe target).2.group? address = b.group? address
      rw [Broker.subscribe_of_refused refusal]
      rfl
  | none =>
      by_cases here : address = target.toAddress
      · rcases Broker.refusal?_eq_none_iff.1 refusal with ⟨isOpen, -, welcome⟩
        rw [Broker.group?_subscribe_ok refusal, if_pos here, Broker.population_eq]
        subst here
        refine .joined rfl isOpen ?_ rfl welcome
        show Answer.ticket (b.subscribe target).1 = _
        rw [Broker.subscribe_fst_ok refusal, Broker.population_eq]
        rfl
      · apply Effect.of_same (x := ⟨b, .subscribe target⟩) _ nofun nofun
        show (b.subscribe target).2.group? address = b.group? address
        rw [Broker.group?_subscribe_ok refusal, if_neg here]

private theorem effect_publish (b : Broker) (topic : String) (m : Message) (address : Address) :
    Effect ⟨b, .publish topic m⟩ address (b.group? address)
      ((b.publish topic m).2.group? address) := by
  have failed (e : BrokerError) (result : b.publish topic m = (.error e, b)) :
      Effect ⟨b, .publish topic m⟩ address (b.group? address)
        ((b.publish topic m).2.group? address) := by
    rw [result]
    refine .untouched ?_ (received?_eq_none nofun)
    simp [published?, answer, Broker.call, result]
  cases isClosed : b.isClosed with
  | true => exact failed .closed (by simp [Broker.publish, isClosed])
  | false =>
      cases broken : b.faults.publish with
      | true => exact failed _ (by simp [Broker.publish, isClosed, broken]; rfl)
      | false =>
          have result : (b.publish topic m).1 = .ok () := by
            simp [Broker.publish, isClosed, broken]
          rw [Broker.group?_publish_ok isClosed broken]
          by_cases here : address.topic = topic
          · cases present : b.group? address with
            | none =>
                refine .untouched ?_ (received?_eq_none nofun)
                simp [published?, answer, Broker.call, result, present]
            | some g =>
                rw [Option.map_some, if_pos here]
                exact .dealt (by rw [here]) isClosed (congrArg Answer.result result)
          · rw [show (b.group? address).map (fun g => if address.topic = topic then g.dispatch m
                else g) = b.group? address by simp [here]]
            refine .untouched ?_ (received?_eq_none nofun)
            simp [published?, answer, Broker.call, result, Ne.symm here]

private theorem effect_receive (b : Broker) (ticket : Ticket) (address : Address) :
    Effect ⟨b, .receive ticket⟩ address (b.group? address)
      ((b.receive ticket).2.group? address) := by
  rw [Broker.group?_receive]
  by_cases here : address = ticket.address
  · subst here
    rw [if_pos rfl]
    cases present : b.group? ticket.address with
    | none =>
        refine .untouched (published?_eq_none nofun) fun queue => ?_
        simp [received?, answer, Broker.call, Broker.receive_fst_of_none present]
    | some g => exact .polled rfl rfl (congrArg Answer.reception (Broker.receive_fst present))
  · rw [if_neg here]
    refine .untouched (published?_eq_none nofun) fun queue => ?_
    unfold received?
    split
    · rename_i _ m call _
      cases call
      rw [if_neg fun both => here both.1.symm]
    · rfl

private theorem effect_unsubscribe (b : Broker) (ticket : Ticket) (address : Address) :
    Effect ⟨b, .unsubscribe ticket⟩ address (b.group? address)
      ((b.unsubscribe ticket).2.group? address) := by
  have same (h : (b.unsubscribe ticket).2.group? address = b.group? address) :
      Effect ⟨b, .unsubscribe ticket⟩ address (b.group? address)
        ((b.unsubscribe ticket).2.group? address) :=
    Effect.of_same (x := ⟨b, .unsubscribe ticket⟩) h nofun nofun
  cases broken : b.faults.unsubscribe with
  | true => exact same (by simp [Broker.unsubscribe, broken])
  | false =>
      have after : (b.unsubscribe ticket).2.group? address = _ :=
        Broker.group?_unsubscribe_ok broken address
      by_cases here : address = ticket.address
      · rw [if_pos here] at after
        refine Effect.of_map (x := ⟨b, .unsubscribe ticket⟩) after nofun nofun fun g => ?_
        refine .left rfl here.symm ?_
        simp [answer, Broker.call, Broker.unsubscribe, broken]
      · exact same (by rw [after, if_neg here])

private theorem effect_release (b : Broker) (ticket : Ticket) (address : Address) :
    Effect ⟨b, .release ticket⟩ address (b.group? address)
      ((b.release ticket).group? address) := by
  have after := Broker.group?_release b ticket address
  by_cases here : address = ticket.address
  · rw [if_pos here] at after
    exact Effect.of_map (x := ⟨b, .release ticket⟩) after nofun nofun
      fun g => .dropped rfl here.symm
  · rw [if_neg here] at after
    exact Effect.of_same (x := ⟨b, .release ticket⟩) after nofun nofun

private theorem effect_close (b : Broker) (address : Address) :
    Effect ⟨b, .close⟩ address (b.group? address) (b.close.2.group? address) := by
  cases isClosed : b.isClosed with
  | true =>
      have same : b.close.2.group? address = b.group? address := by
        simp [Broker.close, isClosed]
      exact Effect.of_same (x := ⟨b, .close⟩) same nofun nofun
  | false =>
      have after := Broker.group?_close_of_open isClosed address
      exact Effect.of_map (x := ⟨b, .close⟩) after nofun nofun fun g => .shut rfl

/-- Every call does to every group one of the things that `Effect` lists. -/
theorem effect (x : Moment) (address : Address) :
    x.Effect address (x.before.group? address) (x.after.group? address) := by
  obtain ⟨b, call⟩ := x
  cases call with
  | subscribe target => exact effect_subscribe b target address
  | publish topic m => exact effect_publish b topic m address
  | receive ticket => exact effect_receive b ticket address
  | unsubscribe ticket => exact effect_unsubscribe b ticket address
  | release ticket => exact effect_release b ticket address
  | close => exact effect_close b address
  | failAttempt attempt => exact Effect.of_same rfl nofun nofun
  | failUnsubscribe fail => exact Effect.of_same rfl nofun nofun
  | failPublish fail => exact Effect.of_same rfl nofun nofun

end Moment

/-! ## What every call keeps -/

/-- The group at an address is in good order, if it is there. -/
def Broker.OrderlyAt (b : Broker) (address : Address) : Prop :=
  ∀ g, b.group? address = some g → g.Orderly

theorem Broker.orderlyAt_new (address : Address) : Broker.OrderlyAt {} address := nofun

theorem Moment.orderlyAt_after {x : Moment} {address : Address}
    (orderly : x.before.OrderlyAt address) : x.after.OrderlyAt address := by
  have effect := x.effect address
  unfold Broker.OrderlyAt at orderly ⊢
  generalize x.before.group? address = group? at effect orderly
  generalize x.after.group? address = next at effect ⊢
  rintro h rfl
  cases effect with
  | untouched => exact orderly h rfl
  | @joined _ old mode id _ _ _ oldEq _ =>
      have ordered := (Group.orderly_getD orderly mode).switchTo mode
      rw [← oldEq] at ordered
      exact ordered.attach rfl (Group.switchTo_population old mode).symm
  | dealt => exact (orderly _ rfl).dispatch _
  | polled => exact (orderly _ rfl).receive _
  | left => exact (orderly _ rfl).detach _
  | dropped => exact (orderly _ rfl).release _
  | shut => exact (orderly _ rfl).shut

/-- What holds at first and is kept by every call holds after any calls. -/
theorem Broker.after_induction {motive : Broker → Prop} {b : Broker} (calls : List Call)
    (start : motive b) (step : ∀ x : Moment, motive x.before → motive x.after) :
    motive (b.after calls) := by
  induction calls generalizing b with
  | nil => exact start
  | cons call rest ih => exact ih (step ⟨b, call⟩ start)

theorem Broker.orderlyAt_after {b : Broker} {address : Address} (calls : List Call)
    (orderly : b.OrderlyAt address) : (b.after calls).OrderlyAt address :=
  after_induction (motive := fun b => b.OrderlyAt address) calls orderly
    fun _ => Moment.orderlyAt_after

/-- Nobody is attached to a closed broker, and nothing waits there. -/
def Broker.DesertedIfClosed (b : Broker) (address : Address) : Prop :=
  b.isClosed = true → ∀ g, b.group? address = some g → g.consumers = [] ∧ g.backlog = []

theorem Broker.desertedIfClosed_new (address : Address) :
    Broker.DesertedIfClosed {} address := nofun

/-- Only closing closes a broker. -/
theorem Moment.isClosed_after {x : Moment} (other : x.call ≠ .close) :
    x.after.isClosed = x.before.isClosed := by
  obtain ⟨b, call⟩ := x
  cases call with
  | subscribe target => exact (congrArg Broker.isClosed (b.subscribe_snd_eq target) :)
  | publish topic m => exact (congrArg Broker.isClosed (b.publish_snd_eq topic m) :)
  | receive ticket => exact (congrArg Broker.isClosed (b.receive_snd_eq ticket) :)
  | unsubscribe ticket => exact (congrArg Broker.isClosed (b.unsubscribe_snd_eq ticket) :)
  | close => exact absurd rfl other
  | release ticket | failAttempt attempt | failUnsubscribe fail | failPublish fail => rfl

theorem Moment.isClosed_of_close {x : Moment} (closing : x.call = .close) :
    x.after.isClosed = true := by
  obtain ⟨b, call⟩ := x
  subst closing
  exact (congrArg Broker.isClosed b.close_snd_eq :)

/-- Whether a call arranges a failure, or takes such an arrangement back. -/
def Call.isArrangement : Call → Bool
  | .failAttempt _ | .failUnsubscribe _ | .failPublish _ => true
  | _ => false

/-- No other call changes what has been arranged to fail. -/
theorem Moment.faults_after {x : Moment} (plain : x.call.isArrangement = false) :
    x.after.faults = x.before.faults := by
  obtain ⟨b, call⟩ := x
  cases call with
  | subscribe target => exact (congrArg Broker.faults (b.subscribe_snd_eq target) :)
  | publish topic m => exact (congrArg Broker.faults (b.publish_snd_eq topic m) :)
  | receive ticket => exact (congrArg Broker.faults (b.receive_snd_eq ticket) :)
  | unsubscribe ticket => exact (congrArg Broker.faults (b.unsubscribe_snd_eq ticket) :)
  | close => exact (congrArg Broker.faults b.close_snd_eq :)
  | release ticket => rfl
  | failAttempt attempt | failUnsubscribe fail | failPublish fail => cases plain

/-- Only unsubscribing counts as a release. -/
theorem Moment.released_after {x : Moment} (other : ∀ ticket, x.call ≠ .unsubscribe ticket) :
    x.after.released = x.before.released := by
  obtain ⟨b, call⟩ := x
  cases call with
  | subscribe target => exact (congrArg Broker.released (b.subscribe_snd_eq target) :)
  | publish topic m => exact (congrArg Broker.released (b.publish_snd_eq topic m) :)
  | receive ticket => exact (congrArg Broker.released (b.receive_snd_eq ticket) :)
  | unsubscribe ticket => exact absurd rfl (other ticket)
  | close => exact (congrArg Broker.released b.close_snd_eq :)
  | release ticket | failAttempt attempt | failUnsubscribe fail | failPublish fail => rfl

theorem Moment.desertedIfClosed_after {x : Moment} {address : Address}
    (deserted : x.before.DesertedIfClosed address) : x.after.DesertedIfClosed address := by
  intro isClosed h there
  by_cases closing : x.call = .close
  · obtain ⟨b, call⟩ := x
    subst closing
    have there : b.close.2.group? address = some h := there
    cases before : b.isClosed with
    | true =>
        have same : b.close.2 = b := by simp [Broker.close, before]
        rw [same] at there
        exact deserted before h there
    | false =>
        rw [Broker.group?_close_of_open before, Option.map_eq_some_iff] at there
        obtain ⟨g, -, rfl⟩ := there
        exact ⟨rfl, rfl⟩
  · rw [isClosed_after closing] at isClosed
    have nobody := deserted isClosed
    have effect := x.effect address
    rw [there] at effect
    generalize x.before.group? address = group? at effect nobody
    cases effect with
    | untouched => exact nobody h rfl
    | joined _ isOpen => simp [isClosed] at isOpen
    | dealt _ isOpen => simp [isClosed] at isOpen
    | @polled g ticket =>
        obtain ⟨consumers, backlog⟩ := nobody g rfl
        unfold Group.receive
        split
        · exact ⟨consumers, backlog⟩
        · split
          · exact ⟨by simp [Group.adjust, consumers], backlog⟩
          · exact ⟨consumers, backlog⟩
    | @left g ticket =>
        obtain ⟨consumers, backlog⟩ := nobody g rfl
        exact ⟨by simp [Group.detach, consumers], backlog⟩
    | @dropped g ticket =>
        obtain ⟨consumers, backlog⟩ := nobody g rfl
        exact ⟨by simp [Group.release, Group.adjust, consumers], backlog⟩
    | shut call => exact absurd call closing

/-! ## Moments of a history -/

namespace Broker

variable {b : Broker} {calls : List Call} {i : Nat} {x y : Moment}

/-- A call meets the broker that the call before it has left. -/
theorem history_succ (here : (b.history calls)[i + 1]? = some y) :
    ∃ x, (b.history calls)[i]? = some x ∧ y.before = x.after := by
  induction calls generalizing b i with
  | nil => cases here
  | cons call rest ih =>
      cases i with
      | zero =>
          cases rest with
          | nil => cases here
          | cons next later =>
              obtain rfl : ⟨(b.call call).2, next⟩ = y := Option.some.inj here
              exact ⟨⟨b, call⟩, rfl, rfl⟩
      | succ i => exact ih here

/-- What holds at first and is kept by every call holds at every moment. -/
theorem history_induction {motive : Broker → Prop} (start : motive b)
    (step : ∀ x : Moment, motive x.before → motive x.after)
    (here : (b.history calls)[i]? = some x) : motive x.before := by
  induction calls generalizing b i with
  | nil => cases here
  | cons call rest ih =>
      cases i with
      | zero =>
          obtain rfl : ⟨b, call⟩ = x := Option.some.inj here
          exact start
      | succ i => exact ih (step ⟨b, call⟩ start) here

theorem orderlyAt_of_history (here : (history {} calls)[i]? = some x) (address : Address) :
    x.before.OrderlyAt address :=
  history_induction (motive := fun b => b.OrderlyAt address) (orderlyAt_new address)
    (fun _ => Moment.orderlyAt_after) here

theorem desertedIfClosed_of_history (here : (history {} calls)[i]? = some x) (address : Address) :
    x.before.DesertedIfClosed address :=
  history_induction (motive := fun b => b.DesertedIfClosed address) (desertedIfClosed_new address)
    (fun _ => Moment.desertedIfClosed_after) here

end Broker

end DeliveryBench
