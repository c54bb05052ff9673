import DeliveryBench.Proofs.Broker.Effect
import DeliveryBench.Proofs.Broker.Steady

/-!
# A broker that serves one target

A broker without arranged failures, to which only the workers of one run have attached, all at the
same target. Every call of the run then does to the group what the lemmas of `Group.Steady` are
about, and the broker goes on to serve (`Serving.subscribe`, `Serving.publish`, `Serving.receive`).
-/

namespace DeliveryBench.Broker

variable {b : Broker} {target : Target} {count : Nat}

structure Serving (b : Broker) (target : Target) (count : Nat) : Prop where
  isOpen : b.isClosed = false
  faultless : b.faults = {}
  next : b.nextConsumer = Word.wrap count
  steady : (b.groupFor target).Steady count
  mode : (b.groupFor target).mode = target.mode
  present : 0 < count → b.group? target.toAddress = some (b.groupFor target)

theorem serving_new (target : Target) : Serving {} target 0 where
  isOpen := rfl
  faultless := rfl
  next := rfl
  steady := Group.steady_new target.mode
  mode := rfl
  present := fun absurd => nomatch absurd

theorem groupFor_of_group? {g : Group} (there : b.group? target.toAddress = some g) :
    b.groupFor target = g := by
  unfold groupFor
  rw [there]
  rfl

/-- What a call has to do to the group. -/
theorem Serving.of_group (serving : b.Serving target count) {b' : Broker} {g : Group}
    {count' : Nat} (isClosed : b'.isClosed = b.isClosed) (faults : b'.faults = b.faults)
    (next : b'.nextConsumer = Word.wrap count')
    (there : b'.group? target.toAddress = some g) (steady : g.Steady count')
    (mode : g.mode = target.mode) : b'.Serving target count' := by
  have same := groupFor_of_group? there
  refine ⟨isClosed.trans serving.isOpen, faults.trans serving.faultless, next, ?_, ?_, ?_⟩
  · rw [same]
    exact steady
  · rw [same]
    exact mode
  · rw [there, same]
    exact fun _ => rfl

/-! ## Subscribing -/

theorem Serving.accepted (serving : b.Serving target count) (attempt : Nat) :
    b.refusal? attempt target = none := by
  apply refusal?_eq_none_iff.2
  refine ⟨serving.isOpen, by rw [serving.faultless]; rfl, ?_⟩
  simp [Group.refuses, serving.mode]

/-- The consumer that attaches next. -/
def nextComer (target : Target) (count : Nat) : Consumer :=
  { id := Word.wrap count, queue := count, mode := target.mode }

theorem Serving.subscribe_fst (serving : b.Serving target count) :
    (b.subscribe target).1 = .ok ⟨target.toAddress, Word.wrap count, count⟩ := by
  rw [subscribe_fst_ok (serving.accepted _), population_eq, serving.steady.population,
    serving.next]

theorem Serving.group?_subscribe (serving : b.Serving target count) :
    (b.subscribe target).2.group? target.toAddress =
      some ((b.groupFor target).attach (nextComer target count)) := by
  rw [group?_subscribe_ok (serving.accepted _), if_pos rfl, population_eq,
    serving.steady.population, serving.next]
  show some (((b.groupFor target).switchTo target.mode).attach _) = _
  rw [Group.switchTo, if_pos serving.mode]
  rfl

theorem Serving.subscribe (serving : b.Serving target count) :
    (b.subscribe target).2.Serving target (count + 1) := by
  have next : (b.subscribe target).2.nextConsumer = Word.wrap (b.nextConsumer + 1) := by
    simp only [Broker.subscribe, serving.accepted]
  rw [serving.next, Word.wrap_wrap_succ] at next
  apply serving.of_group (congrArg Broker.isClosed (b.subscribe_snd_eq target) :)
    (congrArg Broker.faults (b.subscribe_snd_eq target) :) next serving.group?_subscribe
  · exact serving.steady.attach rfl rfl rfl
  · rw [serving.steady.attach_eq]
    exact serving.mode

/-! ## Publishing and receiving -/

theorem Serving.group?_publish (serving : b.Serving target count) (somebody : 0 < count)
    (m : Message) :
    (b.publish target.topic m).2.group? target.toAddress =
      some ((b.groupFor target).dispatch m) := by
  rw [group?_publish_ok serving.isOpen (by rw [serving.faultless]), serving.present somebody,
    Option.map_some, if_pos rfl]

theorem Serving.publish (serving : b.Serving target count) (somebody : 0 < count) (m : Message) :
    (b.publish target.topic m).2.Serving target count := by
  have rest := b.publish_snd_eq target.topic m
  apply serving.of_group (congrArg Broker.isClosed rest :) (congrArg Broker.faults rest :)
    ((congrArg Broker.nextConsumer rest :).trans serving.next) (serving.group?_publish somebody m)
  · exact serving.steady.dispatch somebody m
  · rw [Group.dispatch_mode]
    exact serving.mode

theorem Serving.receive_fst (serving : b.Serving target count) (somebody : 0 < count)
    {ticket : Ticket} (here : ticket.address = target.toAddress) :
    (b.receive ticket).1 = ((b.groupFor target).receive ticket.queue).1 :=
  Broker.receive_fst (here.symm ▸ serving.present somebody)

theorem Serving.group?_receive (serving : b.Serving target count) (somebody : 0 < count)
    {ticket : Ticket} (here : ticket.address = target.toAddress) :
    (b.receive ticket).2.group? target.toAddress =
      some ((b.groupFor target).receive ticket.queue).2 := by
  rw [Broker.group?_receive, if_pos here.symm, serving.present somebody, Option.map_some]

theorem Serving.receive (serving : b.Serving target count) (somebody : 0 < count)
    {ticket : Ticket} (here : ticket.address = target.toAddress) :
    (b.receive ticket).2.Serving target count := by
  have rest := b.receive_snd_eq ticket
  apply serving.of_group (congrArg Broker.isClosed rest :) (congrArg Broker.faults rest :)
    ((congrArg Broker.nextConsumer rest :).trans serving.next) (serving.group?_receive somebody here)
  · exact serving.steady.receive _
  · exact (Group.receive_rest _ _).1.trans serving.mode

end DeliveryBench.Broker
