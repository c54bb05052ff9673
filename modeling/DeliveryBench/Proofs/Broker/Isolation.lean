import DeliveryBench.Broker.Dealings
import DeliveryBench.Proofs.Broker.Renumbering
import Mathlib.Data.List.Perm.Subperm
import Mathlib.Logic.Equiv.Basic

/-!
# Subscriptions do not interfere

Beside a broker that serves many subscriptions, think of one that is only asked what concerns the
subscription at one address, with consumers called by their queues. It gives the same answers
(`Echoes.run`): its group at the address is the group of the busy broker with other numbers
(`Broker.Echoes`), and numbers only tell consumers apart. When a consumer attaches, the renumbering
changes at the number that the busy broker gives it, which nobody bears yet (`Echoes.attach`).

So the answers of a subscription depend on what it is asked and on nothing else, which is
`subscriptions_do_not_interfere`.

Caveat: numbers are words. If there were as many calls to `subscribe` as words, two consumers of
one subscription could get the same number, and the calls on other subscriptions decide whether they
do.
-/

namespace DeliveryBench

/-! ## Tickets that have been handed out -/

/-- What tells a consumer apart from others: its number and its queue. -/
def Consumer.label (c : Consumer) : ConsumerId × Nat :=
  (c.id, c.queue)

namespace Broker

/-- A ticket is that of somebody who has attached. -/
def Knows (b : Broker) (ticket : Ticket) : Prop :=
  ∃ g, b.group? ticket.address = some g ∧
    (ticket.consumer, ticket.queue) ∈ g.members.map Consumer.label

variable {b : Broker} {calls : List Call} {ticket : Ticket}

theorem history_getElem? (b : Broker) (calls : List Call) (i : Nat) :
    (b.history calls)[i]? = calls[i]?.map fun call => ⟨b.after (calls.take i), call⟩ := by
  induction calls generalizing b i with
  | nil => rfl
  | cons call rest ih =>
      cases i with
      | zero => rfl
      | succ i => exact ih (b.call call).2 i

end Broker

namespace Moment

variable {x : Moment} {address : Address} {ticket : Ticket}

/-- Nobody who has attached is forgotten. -/
theorem labels_after (orderly : x.before.OrderlyAt address) {g : Group}
    (before : x.before.group? address = some g) :
    ∃ h, x.after.group? address = some h ∧
      g.members.map Consumer.label ⊆ h.members.map Consumer.label := by
  have effect := x.effect address
  have ordered := orderly g before
  generalize x.after.group? address = next at effect ⊢
  rw [before] at effect
  cases effect with
  | untouched => exact ⟨g, rfl, List.Subset.refl _⟩
  | @joined _ old mode id _ _ _ oldEq _ =>
      obtain rfl : old = g := oldEq
      refine ⟨_, rfl, ?_⟩
      rw [← Group.switchTo_members old mode]
      exact List.map_subset _ fun c member =>
        ((ordered.switchTo mode).mem_attach_members rfl).2 (.inr member)
  | dealt => exact ⟨_, rfl, (Group.dispatch_members_map g _ fun _ _ => rfl).symm.subset⟩
  | @polled _ ticket =>
      have same := Group.receive_members_map g ticket.queue (f := Consumer.label) fun _ _ => rfl
      exact ⟨_, rfl, (List.Perm.of_eq same.symm).subset⟩
  | left => exact ⟨_, rfl, ((Group.detach_members_perm g _).map _).symm.subset⟩
  | @dropped _ ticket =>
      have same : (g.release ticket.queue).members.map Consumer.label =
          g.members.map Consumer.label :=
        Group.adjust_members_map g ticket.queue fun _ => rfl
      exact ⟨_, rfl, (List.Perm.of_eq same.symm).subset⟩
  | shut =>
      have moved : (g.consumers ++ g.departed).Perm (g.departed ++ g.consumers) :=
        List.perm_append_comm
      exact ⟨_, rfl, (moved.map _).subset⟩

theorem knows_after (orderly : x.before.OrderlyAt ticket.address) (knows : x.before.Knows ticket) :
    x.after.Knows ticket := by
  obtain ⟨g, there, member⟩ := knows
  obtain ⟨h, there', kept⟩ := labels_after orderly there
  exact ⟨h, there', kept member⟩

/-- A ticket is handed out to somebody who attaches. -/
theorem knows_of_answer (orderly : x.before.OrderlyAt ticket.address)
    (answer : x.answer = .ticket (.ok ticket)) : x.after.Knows ticket := by
  obtain ⟨b, call⟩ := x
  cases call with
  | subscribe target =>
      have accepted : (b.subscribe target).1 = .ok ticket := by injection answer
      have issued := accepted.symm.trans
        (Broker.subscribe_fst_ok (Broker.refusal?_of_accepted accepted))
      obtain rfl : ticket = ⟨target.toAddress, b.nextConsumer, b.population target.toAddress⟩ := by
        injection issued
      obtain ⟨g, there, -, consumers, -⟩ := Broker.subscribe_hands_over orderly accepted
      refine ⟨g, there, ?_⟩
      rw [Group.members, consumers]
      simp [Consumer.label]
  | _ => cases answer

end Moment

namespace Broker

variable {b : Broker} {calls : List Call} {ticket : Ticket} {address : Address}

/-- Whoever shows a ticket that has been handed out is known. -/
theorem knows_of_mem_history (orderly : b.OrderlyAt ticket.address) {x : Moment}
    (member : x ∈ b.history calls) (answer : x.answer = .ticket (.ok ticket)) :
    (b.after calls).Knows ticket := by
  induction calls generalizing b with
  | nil => cases member
  | cons call rest ih =>
      let first : Moment := ⟨b, call⟩
      have orderly' : first.after.OrderlyAt ticket.address := Moment.orderlyAt_after orderly
      rcases List.mem_cons.1 member with rfl | later
      · have kept : (first.after.after rest).OrderlyAt ticket.address ∧
            (first.after.after rest).Knows ticket :=
          after_induction (motive := fun b => b.OrderlyAt ticket.address ∧ b.Knows ticket) rest
            ⟨orderly', Moment.knows_of_answer orderly answer⟩
            fun x known => ⟨Moment.orderlyAt_after known.1, Moment.knows_after known.1 known.2⟩
        exact kept.2
      · exact ih orderly' later

theorem knows_of_issued (issued : ticket ∈ issued calls) : (Broker.after {} calls).Knows ticket := by
  obtain ⟨x, member, answer⟩ := List.mem_filterMap.1 issued
  apply knows_of_mem_history (orderlyAt_new _) member
  split at answer
  · rename_i given accepted
    rw [accepted, Option.some.inj answer]
  · cases answer

/-! ## Undisturbed calls -/

theorem nextConsumer_lt (calls : List Call) : (Broker.after {} calls).nextConsumer < Word.limit := by
  apply after_induction (motive := fun b => b.nextConsumer < Word.limit) calls (by decide)
  intro x word
  rcases x.nextConsumer_after with ⟨same, -⟩ | ⟨-, -, -, -, -, next⟩
  · rw [same]
    exact word
  · rw [next]
    exact Word.wrap_lt _

/-- With distinct numbers below the next one, there are no more consumers than numbers. -/
theorem Sound.population_le (sound : b.Sound) (address : Address) :
    b.population address ≤ b.nextConsumer := by
  have below : b.idsAt address ⊆ List.range b.nextConsumer :=
    fun id member => List.mem_range.2 (sound.below address id member)
  have few := (List.subperm_of_subset (sound.distinct address) below).length_le
  rw [List.length_range] at few
  refine Nat.le_trans (Nat.le_of_eq ?_) few
  unfold population idsAt
  cases b.group? address with
  | none => rfl
  | some g => exact (List.length_map _).symm

end Broker

/-- A call that does not disturb the subscription at an address. -/
structure Moment.Calm (x : Moment) (address : Address) : Prop where
  sound : x.before.Sound
  word : x.before.nextConsumer < Word.limit
  quiet : x.call.isDisruptive = false
  known : ∀ ticket, x.call.ticket? = some ticket → ticket.address = address →
    x.before.Knows ticket

/-- Every call of an undisturbed subscription is calm. -/
theorem Broker.Undisturbed.calm {address : Address} {calls : List Call}
    (undisturbed : Undisturbed address calls) (few : calls.countP Call.isSubscribe < Word.limit)
    {x : Moment} (member : x ∈ Broker.history {} calls) : x.Calm address := by
  obtain ⟨i, here⟩ := List.getElem?_of_mem member
  rw [Broker.history_getElem?] at here
  obtain ⟨call, there, rfl⟩ := Option.map_eq_some_iff.1 here
  obtain ⟨inside, rfl⟩ := List.getElem?_eq_some_iff.1 there
  have earlier : (calls.take i).countP Call.isSubscribe < Word.limit :=
    Nat.lt_of_le_of_lt ((List.take_sublist i calls).countP_le) few
  refine ⟨Broker.sound_new.after _ earlier, Broker.nextConsumer_lt _,
    undisturbed.quiet _ (List.getElem_mem inside), ?_⟩
  rintro ticket shown rfl
  exact Broker.knows_of_issued (undisturbed.genuine i inside ticket (Option.mem_toList.2 shown) rfl)

namespace Broker

variable {b a : Broker} {address : Address} {ρ : ConsumerId → ConsumerId} {x : Moment}
  {calls : List Call}

/-! ## A broker for one subscription alone -/

/-- At an address, the second broker looks like the first with other numbers: there everybody's
number is that of the queue. -/
structure Echoes (b a : Broker) (address : Address) (ρ : ConsumerId → ConsumerId) : Prop where
  injective : Function.Injective ρ
  group : a.group? address = (b.group? address).map (Group.renumber ρ)
  numbers : ∀ g, b.group? address = some g → ∀ c ∈ g.members, ρ c.id = c.queue
  next : a.nextConsumer = Word.wrap (a.population address)
  isOpen : b.isClosed = false ∧ a.isClosed = false
  faultless : b.faults = {} ∧ a.faults = {}

theorem echoes_new (address : Address) : Echoes {} {} address id where
  injective := Function.injective_id
  group := rfl
  numbers := nofun
  next := rfl
  isOpen := ⟨rfl, rfl⟩
  faultless := ⟨rfl, rfl⟩

theorem Echoes.population (echoes : Echoes b a address ρ) :
    a.population address = b.population address := by
  unfold Broker.population
  rw [echoes.group]
  cases b.group? address with
  | none => rfl
  | some g => exact Group.renumber_population ρ g

theorem Echoes.groupFor (echoes : Echoes b a address ρ) (mode : Mode) :
    a.groupFor ⟨address, mode⟩ = (b.groupFor ⟨address, mode⟩).renumber ρ := by
  unfold Broker.groupFor
  show (a.group? address).getD _ = ((b.group? address).getD _).renumber ρ
  rw [echoes.group]
  cases b.group? address <;> rfl

/-! ## Calls elsewhere -/

end Broker

namespace Moment

variable {x : Moment} {address : Address}

theorem isClosed_of_quiet (quiet : x.call.isDisruptive = false) :
    x.after.isClosed = x.before.isClosed := by
  apply isClosed_after
  intro closing
  rw [closing] at quiet
  cases quiet

theorem faultless_of_quiet (quiet : x.call.isDisruptive = false)
    (faultless : x.before.faults = {}) : x.after.faults = {} := by
  obtain ⟨b, call⟩ := x
  cases call with
  | close | failAttempt attempt => cases quiet
  | failUnsubscribe fail | failPublish fail =>
      obtain rfl : fail = false := quiet
      have unset : b.faults = {} := faultless
      simp [after, Broker.call, Broker.failUnsubscribe, Broker.failPublish, unset]
  | _ => exact (faults_after rfl).trans faultless

/-- What concerns others leaves the subscription alone. -/
theorem group?_of_elsewhere (quiet : x.call.isDisruptive = false)
    (elsewhere : x.call.concerns address = false) :
    x.after.group? address = x.before.group? address := by
  have effect := x.effect address
  generalize x.before.group? address = group? at effect ⊢
  generalize x.after.group? address = next at effect ⊢
  cases effect with
  | untouched => rfl
  | joined call | dealt call => simp [call, Call.concerns] at elsewhere
  | polled call here | left call here | dropped call here =>
      simp [call, here, Call.concerns] at elsewhere
  | shut call => simp [call, Call.isDisruptive] at quiet

end Moment

namespace Broker

variable {b a : Broker} {address : Address} {ρ : ConsumerId → ConsumerId} {x : Moment}

theorem Echoes.elsewhere (echoes : Echoes x.before a address ρ)
    (quiet : x.call.isDisruptive = false) (elsewhere : x.call.concerns address = false) :
    Echoes x.after a address ρ := by
  have same := Moment.group?_of_elsewhere quiet elsewhere
  refine ⟨echoes.injective, ?_, ?_, echoes.next, ?_, ?_⟩
  · rw [same]
    exact echoes.group
  · rw [same]
    exact echoes.numbers
  · rw [Moment.isClosed_of_quiet quiet]
    exact echoes.isOpen
  · exact ⟨Moment.faultless_of_quiet quiet echoes.faultless.1, echoes.faultless.2⟩

/-! ## Calls to the subscription

`x` is a call to the busy broker, and `y` is the same call to the broker that serves the
subscription alone. -/

variable {y : Moment} {ticket : Ticket}

/-- A call that only changes groups. -/
theorem Echoes.of_groups {ρ' : ConsumerId → ConsumerId} (echoes : Echoes x.before y.before address ρ)
    (quiet : x.call.isDisruptive = false ∧ y.call.isDisruptive = false)
    (injective : Function.Injective ρ')
    (group : y.after.group? address = (x.after.group? address).map (Group.renumber ρ'))
    (numbers : ∀ g, x.after.group? address = some g → ∀ c ∈ g.members, ρ' c.id = c.queue)
    (next : y.after.nextConsumer = Word.wrap (y.after.population address)) :
    Echoes x.after y.after address ρ' where
  injective := injective
  group := group
  numbers := numbers
  next := next
  isOpen := by
    rw [Moment.isClosed_of_quiet quiet.1, Moment.isClosed_of_quiet quiet.2]
    exact echoes.isOpen
  faultless := ⟨Moment.faultless_of_quiet quiet.1 echoes.faultless.1,
    Moment.faultless_of_quiet quiet.2 echoes.faultless.2⟩

/-- A call that does the same to both groups and moves consumers about at most. -/
theorem Echoes.of_map {f h : Group → Group} (echoes : Echoes x.before y.before address ρ)
    (quiet : x.call.isDisruptive = false ∧ y.call.isDisruptive = false)
    (busy : x.after.group? address = (x.before.group? address).map f)
    (alone : y.after.group? address = (y.before.group? address).map h)
    (same : ∀ g, x.before.group? address = some g → h (g.renumber ρ) = (f g).renumber ρ)
    (labels : ∀ g, ((f g).members.map Consumer.label).Perm (g.members.map Consumer.label))
    (next : y.after.nextConsumer = y.before.nextConsumer) :
    Echoes x.after y.after address ρ := by
  have population : y.after.population address = y.before.population address := by
    rw [echoes.population]
    unfold Broker.population
    rw [alone, echoes.group]
    cases there : x.before.group? address with
    | none => rfl
    | some g =>
        have size := (labels g).length_eq
        rw [List.length_map, List.length_map] at size
        dsimp only [Option.map_some]
        rw [same g there, Group.renumber_population]
        exact size
  apply echoes.of_groups quiet echoes.injective
  · rw [alone, busy, echoes.group]
    cases there : x.before.group? address with
    | none => rfl
    | some g => exact congrArg some (same g there)
  · intro later there c member
    rw [busy] at there
    obtain ⟨g, before, rfl⟩ := Option.map_eq_some_iff.1 there
    obtain ⟨d, old, label⟩ := List.mem_map.1 ((labels g).subset (List.mem_map_of_mem member))
    have bears : d.id = c.id ∧ d.queue = c.queue := Prod.mk.inj label
    rw [← bears.1, ← bears.2]
    exact echoes.numbers g before d old
  · rw [next, population]
    exact echoes.next

/-! ## Attaching -/

theorem Echoes.refusal? (echoes : Echoes b a address ρ) (mode : Mode) :
    a.refusal? (a.attempts + 1) ⟨address, mode⟩ = b.refusal? (b.attempts + 1) ⟨address, mode⟩ := by
  unfold Broker.refusal?
  rw [echoes.isOpen.1, echoes.isOpen.2, echoes.faultless.1, echoes.faultless.2]
  dsimp only
  rw [echoes.group]
  cases b.group? address with
  | none => rfl
  | some g =>
      dsimp only [Option.map_some]
      rw [Group.refuses_renumber]
      rfl

/-- The number of a consumer that attaches is exchanged for the number of its queue. -/
theorem exists_renumbering (inj : Function.Injective ρ) {g : Group} {id : ConsumerId}
    (ordered : g.Orderly) (settled : g.Sound) (new : ∀ c ∈ g.members, c.id ≠ id)
    (numbers : ∀ c ∈ g.members, ρ c.id = c.queue) :
    ∃ ρ', Function.Injective ρ' ∧ ρ' id = g.population ∧
      (∀ c ∈ g.members, ρ' c.id = c.queue) ∧ g.renumber ρ' = g.renumber ρ := by
  let swap := Equiv.swap (ρ id) g.population
  have kept (c : Consumer) (member : c ∈ g.members) : swap (ρ c.id) = ρ c.id := by
    apply Equiv.swap_apply_of_ne_of_ne
    · exact fun same => new c member (inj same)
    · rw [numbers c member]
      exact Nat.ne_of_lt (ordered.queue_lt c member)
  refine ⟨swap ∘ ρ, swap.injective.comp inj, Equiv.swap_apply_left _ _, ?_, ?_⟩
  · intro c member
    exact (kept c member).trans (numbers c member)
  · apply Group.renumber_congr kept
    intro entry member
    obtain ⟨c, attached, number⟩ := settled.owners entry member
    rw [← number]
    exact kept c (List.mem_append_left _ attached)

theorem mem_groupFor_members {mode : Mode} {c : Consumer}
    (member : c ∈ (b.groupFor ⟨address, mode⟩).members) :
    ∃ g, b.group? address = some g ∧ c ∈ g.members := by
  unfold Broker.groupFor at member
  dsimp only at member
  cases there : b.group? address with
  | none =>
      rw [there] at member
      cases member
  | some g =>
      rw [there] at member
      exact ⟨g, rfl, member⟩

/-- The counter of the broker that serves nobody else has come to the next queue. -/
theorem Echoes.nextConsumer (echoes : Echoes b a address ρ) (sound : b.Sound)
    (word : b.nextConsumer < Word.limit) : a.nextConsumer = b.population address := by
  have few : b.population address < Word.limit :=
    Nat.lt_of_le_of_lt (sound.population_le address) word
  rw [echoes.next, echoes.population, Word.wrap_of_lt few]

/-- Before somebody attaches, his number is exchanged for that of his queue. -/
theorem Echoes.exists_renumbering (echoes : Echoes b a address ρ) (sound : b.Sound) (mode : Mode) :
    ∃ ρ', Function.Injective ρ' ∧ ρ' b.nextConsumer = b.population address ∧
      (∀ c ∈ (b.groupFor ⟨address, mode⟩).members, ρ' c.id = c.queue) ∧
      (b.groupFor ⟨address, mode⟩).renumber ρ' = (b.groupFor ⟨address, mode⟩).renumber ρ := by
  rw [population_eq b ⟨address, mode⟩]
  apply Broker.exists_renumbering echoes.injective
  · exact Group.orderly_getD (sound.orderly address) mode
  · exact Group.sound_getD (sound.sound address) mode
  · intro c member
    obtain ⟨g, there, known⟩ := mem_groupFor_members member
    have below : c.id ∈ b.idsAt address := by
      unfold idsAt
      rw [there]
      exact List.mem_map_of_mem known
    exact Nat.ne_of_lt (sound.below address c.id below)
  · intro c member
    obtain ⟨g, there, known⟩ := mem_groupFor_members member
    exact echoes.numbers g there c known

theorem group?_subscribe_here {mode : Mode}
    (accepted : b.refusal? (b.attempts + 1) ⟨address, mode⟩ = none) :
    (b.subscribe ⟨address, mode⟩).2.group? address =
      some (((b.groupFor ⟨address, mode⟩).switchTo mode).attach
        { id := b.nextConsumer, queue := b.population address, mode := mode }) :=
  (group?_subscribe_ok accepted address).trans (if_pos rfl)

/-- A consumer that attaches gets a new number on one side and that of its queue on the other. -/
theorem Echoes.attach (echoes : Echoes b a address ρ) (sound : b.Sound)
    (word : b.nextConsumer < Word.limit) {mode : Mode}
    (accepted : b.refusal? (b.attempts + 1) ⟨address, mode⟩ = none) :
    ∃ ρ', Echoes (b.subscribe ⟨address, mode⟩).2 (a.subscribe ⟨address, mode⟩).2 address ρ' := by
  have accepted' : a.refusal? (a.attempts + 1) ⟨address, mode⟩ = none :=
    (echoes.refusal? mode).trans accepted
  have next := echoes.nextConsumer sound word
  have joined : ((b.groupFor ⟨address, mode⟩).switchTo mode).Orderly :=
    (Group.orderly_getD (sound.orderly address) mode).switchTo mode
  have busy := group?_subscribe_here accepted
  obtain ⟨ρ', inj, fresh, numbers, same⟩ := echoes.exists_renumbering sound mode
  have alone : (a.subscribe ⟨address, mode⟩).2.group? address =
      ((b.subscribe ⟨address, mode⟩).2.group? address).map (Group.renumber ρ') := by
    rw [group?_subscribe_here accepted', busy, Option.map_some, ← Group.attach_renumber inj,
      ← Group.switchTo_renumber, same, echoes.groupFor, echoes.population, next,
      Consumer.renumber, fresh]
  have counted : (a.subscribe ⟨address, mode⟩).2.population address =
      b.population address + 1 := by
    rw [population_eq b ⟨address, mode⟩, ← Group.switchTo_population _ mode,
      ← joined.attach_population (c := ⟨b.nextConsumer, b.population address, mode, [], true⟩) rfl]
    unfold Broker.population
    rw [alone, busy]
    exact Group.renumber_population ρ' _
  refine ⟨ρ', Echoes.of_groups (x := ⟨b, .subscribe ⟨address, mode⟩⟩)
    (y := ⟨a, .subscribe ⟨address, mode⟩⟩) echoes ⟨rfl, rfl⟩ inj alone ?_ ?_⟩
  · intro g there c member
    obtain rfl : _ = g := Option.some.inj (busy.symm.trans there)
    rcases (joined.mem_attach_members rfl).1 member with rfl | known
    · exact fresh
    · rw [Group.switchTo_members] at known
      exact numbers c known
  · show (a.subscribe ⟨address, mode⟩).2.nextConsumer =
      Word.wrap ((a.subscribe ⟨address, mode⟩).2.population address)
    rw [counted]
    simp only [subscribe, accepted', next]

/-- A subscribe is answered alike. -/
theorem Echoes.subscribe (echoes : Echoes b a address ρ) (sound : b.Sound)
    (word : b.nextConsumer < Word.limit) (mode : Mode) :
    ∃ ρ', Echoes (b.subscribe ⟨address, mode⟩).2 (a.subscribe ⟨address, mode⟩).2 address ρ' ∧
      (b.subscribe ⟨address, mode⟩).1.map Ticket.byQueue = (a.subscribe ⟨address, mode⟩).1 := by
  cases refusal : b.refusal? (b.attempts + 1) ⟨address, mode⟩ with
  | some e =>
      have refusal' := (echoes.refusal? mode).trans refusal
      rw [subscribe_of_refused refusal, subscribe_of_refused refusal']
      exact ⟨ρ, ⟨echoes.injective, echoes.group, echoes.numbers, echoes.next, echoes.isOpen,
        echoes.faultless⟩, rfl⟩
  | none =>
      obtain ⟨ρ', still⟩ := echoes.attach sound word refusal
      refine ⟨ρ', still, ?_⟩
      have next := echoes.nextConsumer sound word
      rw [subscribe_fst_ok refusal, subscribe_fst_ok ((echoes.refusal? mode).trans refusal)]
      show Except.ok (Ticket.byQueue ⟨address, _, b.population address⟩) =
        Except.ok ⟨address, a.nextConsumer, a.population address⟩
      rw [next, echoes.population]
      rfl

/-! ## The other calls -/

private theorem group?_publish_here {m : Message} (isOpen : b.isClosed = false)
    (works : b.faults.publish = false) :
    (b.publish address.topic m).2.group? address =
      (b.group? address).map fun g => g.dispatch m := by
  rw [group?_publish_ok isOpen works]
  simp only [if_true]

theorem Echoes.publish (echoes : Echoes b a address ρ) (m : Message) :
    Echoes (b.publish address.topic m).2 (a.publish address.topic m).2 address ρ ∧
      (b.publish address.topic m).1 = (a.publish address.topic m).1 := by
  have works : b.faults.publish = false := by rw [echoes.faultless.1]
  have works' : a.faults.publish = false := by rw [echoes.faultless.2]
  constructor
  · apply Echoes.of_map (x := ⟨b, .publish address.topic m⟩) (y := ⟨a, .publish address.topic m⟩)
      (f := fun g => g.dispatch m) (h := fun g => g.dispatch m) echoes ⟨rfl, rfl⟩
    · exact group?_publish_here echoes.isOpen.1 works
    · exact group?_publish_here echoes.isOpen.2 works'
    · exact fun g _ => Group.dispatch_renumber echoes.injective g m
    · exact fun g => Group.dispatch_members_map g m fun _ _ => rfl
    · exact (congrArg Broker.nextConsumer (a.publish_snd_eq address.topic m) :)
  · simp [Broker.publish, echoes.isOpen, works, works']

theorem Echoes.receive (echoes : Echoes b a ticket.address ρ) :
    Echoes (b.receive ticket).2 (a.receive ticket.byQueue).2 ticket.address ρ ∧
      (b.receive ticket).1 = (a.receive ticket.byQueue).1 := by
  constructor
  · apply Echoes.of_map (x := ⟨b, .receive ticket⟩) (y := ⟨a, .receive ticket.byQueue⟩)
      (f := fun g => (g.receive ticket.queue).2) (h := fun g => (g.receive ticket.queue).2)
      echoes ⟨rfl, rfl⟩
    · exact (group?_receive b ticket ticket.address).trans (if_pos rfl)
    · exact (group?_receive a ticket.byQueue ticket.address).trans (if_pos rfl)
    · exact fun g _ => congrArg Prod.snd (Group.receive_renumber ρ g ticket.queue)
    · exact fun g => .of_eq (Group.receive_members_map g ticket.queue fun _ _ => rfl)
    · exact (congrArg Broker.nextConsumer (a.receive_snd_eq ticket.byQueue) :)
  · have group : a.group? ticket.byQueue.address = _ := echoes.group
    cases there : b.group? ticket.address with
    | none =>
        rw [there] at group
        rw [receive_fst_of_none there, receive_fst_of_none group]
    | some g =>
        rw [there] at group
        rw [receive_fst there, receive_fst group]
        exact (congrArg Prod.fst (Group.receive_renumber ρ g ticket.queue)).symm

/-- The number on a ticket that has been handed out is exchanged for that of the queue. -/
theorem Echoes.number_of_ticket (echoes : Echoes b a ticket.address ρ) (known : b.Knows ticket) :
    ρ ticket.consumer = ticket.queue := by
  obtain ⟨g, there, member⟩ := known
  obtain ⟨c, member, label⟩ := List.mem_map.1 member
  have bears : c.id = ticket.consumer ∧ c.queue = ticket.queue := Prod.mk.inj label
  rw [← bears.1, ← bears.2]
  exact echoes.numbers g there c member

theorem Echoes.unsubscribe (echoes : Echoes b a ticket.address ρ) (known : b.Knows ticket) :
    Echoes (b.unsubscribe ticket).2 (a.unsubscribe ticket.byQueue).2 ticket.address ρ ∧
      (b.unsubscribe ticket).1 = (a.unsubscribe ticket.byQueue).1 := by
  have works : b.faults.unsubscribe = false := by rw [echoes.faultless.1]
  have works' : a.faults.unsubscribe = false := by rw [echoes.faultless.2]
  constructor
  · apply Echoes.of_map (x := ⟨b, .unsubscribe ticket⟩) (y := ⟨a, .unsubscribe ticket.byQueue⟩)
      (f := fun g => g.detach ticket.consumer) (h := fun g => g.detach ticket.queue)
      echoes ⟨rfl, rfl⟩
    · exact (group?_unsubscribe_ok works ticket.address).trans (if_pos rfl)
    · exact (@group?_unsubscribe_ok a ticket.byQueue works' ticket.address).trans
        (if_pos rfl)
    · intro g _
      rw [← echoes.number_of_ticket known]
      exact Group.detach_renumber echoes.injective g ticket.consumer
    · exact fun g => (Group.detach_members_perm g ticket.consumer).map _
    · exact (congrArg Broker.nextConsumer (a.unsubscribe_snd_eq ticket.byQueue) :)
  · simp [Broker.unsubscribe, works, works']

theorem Echoes.release (echoes : Echoes b a ticket.address ρ) :
    Echoes (b.release ticket) (a.release ticket.byQueue) ticket.address ρ := by
  apply Echoes.of_map (x := ⟨b, .release ticket⟩) (y := ⟨a, .release ticket.byQueue⟩)
    (f := fun g => g.release ticket.queue) (h := fun g => g.release ticket.queue)
    echoes ⟨rfl, rfl⟩
  · exact (group?_release b ticket ticket.address).trans (if_pos rfl)
  · exact (group?_release a ticket.byQueue ticket.address).trans (if_pos rfl)
  · exact fun g _ => Group.release_renumber ρ g ticket.queue
  · exact fun g => .of_eq (Group.adjust_members_map g ticket.queue fun _ => rfl)
  · rfl

/-- Whatever is asked of the subscription is answered alike. -/
theorem Echoes.here (echoes : Echoes x.before a address ρ) (calm : x.Calm address)
    (here : x.call.concerns address = true) :
    ∃ ρ', Echoes x.after (a.call x.call.byQueue).2 address ρ' ∧
      x.answer.byQueue = (a.call x.call.byQueue).1 := by
  obtain ⟨sound, word, -, known⟩ := calm
  obtain ⟨b, call⟩ := x
  cases call with
  | subscribe target =>
      obtain ⟨there, mode⟩ := target
      obtain rfl : there = address := eq_of_beq here
      obtain ⟨ρ', still, alike⟩ := Echoes.subscribe echoes sound word mode
      exact ⟨ρ', still, congrArg Answer.ticket alike⟩
  | publish topic m =>
      obtain rfl : topic = address.topic := eq_of_beq here
      obtain ⟨still, alike⟩ := Echoes.publish echoes m
      exact ⟨ρ, still, congrArg Answer.result alike⟩
  | receive ticket =>
      obtain rfl : ticket.address = address := eq_of_beq here
      obtain ⟨still, alike⟩ := Echoes.receive echoes
      exact ⟨ρ, still, congrArg Answer.reception alike⟩
  | unsubscribe ticket =>
      obtain rfl : ticket.address = address := eq_of_beq here
      obtain ⟨still, alike⟩ := Echoes.unsubscribe echoes (known ticket rfl rfl)
      exact ⟨ρ, still, congrArg Answer.result alike⟩
  | release ticket =>
      obtain rfl : ticket.address = address := eq_of_beq here
      exact ⟨ρ, Echoes.release echoes, rfl⟩
  | close | failAttempt attempt | failUnsubscribe fail | failPublish fail => cases here

/-! ## Whole runs -/

/-- What is asked of the subscription is answered as if there were no others. -/
theorem Echoes.run (echoes : Echoes b a address ρ)
    (calm : ∀ x ∈ b.history calls, x.Calm address) :
    (∃ ρ', Echoes (b.after calls) (a.after (requests address calls)) address ρ') ∧
      b.dealings address calls =
        (a.history (requests address calls)).map fun x => (x.call, x.answer) := by
  induction calls generalizing b a ρ with
  | nil => exact ⟨⟨ρ, echoes⟩, rfl⟩
  | cons call rest ih =>
      let x : Moment := ⟨b, call⟩
      have first : x.Calm address := calm x List.mem_cons_self
      have later : ∀ y ∈ x.after.history rest, y.Calm address :=
        fun y member => calm y (List.mem_cons_of_mem x member)
      cases here : call.concerns address with
      | false =>
          have skipped : requests address (call :: rest) = requests address rest := by
            simp [requests, here]
          have unseen : b.dealings address (call :: rest) = x.after.dealings address rest := by
            simp [dealings, history, here, x, Moment.after]
          rw [skipped, unseen]
          exact ih (Echoes.elsewhere (x := x) echoes first.quiet here) later
      | true =>
          obtain ⟨ρ', still, alike⟩ := Echoes.here (x := x) echoes first here
          have asked : requests address (call :: rest) =
              call.byQueue :: requests address rest := by
            simp [requests, here]
          have seen : b.dealings address (call :: rest) =
              (call.byQueue, x.answer.byQueue) :: x.after.dealings address rest := by
            simp [dealings, history, here, x, Moment.after]
          obtain ⟨stays, same⟩ := ih still later
          rw [asked, seen, alike, same]
          exact ⟨stays, rfl⟩

/-- The message that a consumer is handed in an exchange, if it is known by its queue. -/
def handed? (queue : Nat) : Call × Answer → Option Message
  | (.receive ticket, .reception (.message m)) => if ticket.queue = queue then some m else none
  | _ => none

/-- What a consumer has received can be told from the dealings. -/
theorem receivedBy_eq_dealings (b : Broker) (address : Address) (queue : Nat)
    (calls : List Call) :
    b.receivedBy address queue calls = (b.dealings address calls).filterMap (handed? queue) := by
  unfold receivedBy dealings
  rw [List.filterMap_map, List.filterMap_filter]
  apply List.filterMap_congr
  rintro ⟨b, call⟩ _
  cases call with
  | receive ticket =>
      simp only [Moment.received?, Moment.answer, Broker.call, Function.comp_apply, Answer.byQueue,
        Call.byQueue, Call.concerns]
      cases (b.receive ticket).1 with
      | message m =>
          by_cases here : ticket.address = address <;> simp [handed?, here, Ticket.byQueue]
      | _ => simp [handed?]
  | _ => simp [Moment.received?, handed?, Call.byQueue]

theorem history_take (b : Broker) (calls : List Call) (i : Nat) :
    b.history (calls.take i) = (b.history calls).take i := by
  induction calls generalizing b i with
  | nil => simp [history]
  | cons call rest ih =>
      cases i with
      | zero => rfl
      | succ i => exact congrArg (_ :: ·) (ih _ i)

theorem Echoes.activeConsumers (echoes : Echoes b a address ρ) :
    b.activeConsumers address = a.activeConsumers address := by
  unfold Broker.activeConsumers
  rw [echoes.group]
  cases b.group? address with
  | none => rfl
  | some g => exact (List.length_map _).symm

theorem Echoes.backlog (echoes : Echoes b a address ρ) :
    b.backlog address = a.backlog address := by
  unfold Broker.backlog
  rw [echoes.group]
  cases b.group? address <;> rfl

/-- **Subscriptions do not interfere.** Two runs of calls, undisturbed at an address, in which the
same is asked of the subscription there: the answers are the same, every queue has been handed the
same messages, and whenever the same has been asked so far, as many consumers are attached and as
many messages wait. -/
theorem subscriptions_do_not_interfere (address : Address) (calls calls' : List Call)
    (undisturbed : Undisturbed address calls) (undisturbed' : Undisturbed address calls')
    (few : calls.countP Call.isSubscribe < Word.limit)
    (few' : calls'.countP Call.isSubscribe < Word.limit)
    (same : requests address calls = requests address calls') :
    dealings {} address calls = dealings {} address calls' ∧
      (∀ queue, receivedBy {} address queue calls = receivedBy {} address queue calls') ∧
      ∀ i j, requests address (calls.take i) = requests address (calls'.take j) →
        (Broker.after {} (calls.take i)).activeConsumers address =
            (Broker.after {} (calls'.take j)).activeConsumers address ∧
          (Broker.after {} (calls.take i)).backlog address =
            (Broker.after {} (calls'.take j)).backlog address := by
  have alike : dealings {} address calls = dealings {} address calls' := by
    rw [((echoes_new address).run fun _ => undisturbed.calm few).2,
      ((echoes_new address).run fun _ => undisturbed'.calm few').2, same]
  refine ⟨alike, ?_, ?_⟩
  · intro queue
    rw [receivedBy_eq_dealings, receivedBy_eq_dealings, alike]
  · intro i j sameSoFar
    have calm : ∀ x ∈ Broker.history {} (calls.take i), x.Calm address := fun x member =>
      undisturbed.calm few (List.mem_of_mem_take (history_take {} calls i ▸ member))
    have calm' : ∀ x ∈ Broker.history {} (calls'.take j), x.Calm address := fun x member =>
      undisturbed'.calm few' (List.mem_of_mem_take (history_take {} calls' j ▸ member))
    obtain ⟨⟨ρ, echoes⟩, -⟩ := (echoes_new address).run calm
    obtain ⟨⟨ρ', echoes'⟩, -⟩ := (echoes_new address).run calm'
    rw [echoes.activeConsumers, echoes'.activeConsumers, echoes.backlog, echoes'.backlog,
      sameSoFar]
    exact ⟨rfl, rfl⟩

/-- A subscription with two consumers, alone in one run and in company in the other. -/
theorem no_interference_by_a_neighbour :
    let here : Address := ⟨"orders", "audit"⟩
    let neighbour : Address := ⟨"orders", "billing"⟩
    let note := fun n => (⟨.ofNat n, "note", some "eu"⟩ : Message)
    let alone : List Call := [.subscribe ⟨here, .keyShared⟩, .subscribe ⟨here, .keyShared⟩,
      .publish "orders" (note 0), .receive ⟨here, 0, 0⟩, .unsubscribe ⟨here, 0, 0⟩,
      .publish "orders" (note 1), .receive ⟨here, 1, 1⟩]
    let together : List Call := [.subscribe ⟨neighbour, .shared⟩, .subscribe ⟨here, .keyShared⟩,
      .publish "payments" (note 7), .subscribe ⟨neighbour, .shared⟩,
      .subscribe ⟨here, .keyShared⟩, .publish "orders" (note 0), .receive ⟨here, 1, 0⟩,
      .unsubscribe ⟨neighbour, 0, 0⟩, .unsubscribe ⟨here, 1, 0⟩, .publish "orders" (note 1),
      .receive ⟨here, 3, 1⟩]
    Undisturbed here alone ∧ Undisturbed here together ∧
      alone.countP Call.isSubscribe < Word.limit ∧ together.countP Call.isSubscribe < Word.limit ∧
      requests here alone = requests here together ∧
      dealings {} here alone = dealings {} here together ∧
      receivedBy {} here 1 together = [note 1] ∧
      (Broker.after {} together).activeConsumers here = 1 := by
  intro here neighbour note alone together
  have undisturbed : Undisturbed here alone := by decide
  have undisturbed' : Undisturbed here together := by decide
  have few : alone.countP Call.isSubscribe < Word.limit := by decide
  have few' : together.countP Call.isSubscribe < Word.limit := by decide
  have same : requests here alone = requests here together := by decide
  obtain ⟨alike, received, moments⟩ :=
    subscriptions_do_not_interfere here alone together undisturbed undisturbed' few few' same
  have given : receivedBy {} here 1 alone = [note 1] := by decide
  have left : (Broker.after {} alone).activeConsumers here = 1 := by decide
  refine ⟨undisturbed, undisturbed', few, few', same, alike, (received 1).symm.trans given, ?_⟩
  exact (moments alone.length together.length same).1.symm.trans left

end Broker

end DeliveryBench
