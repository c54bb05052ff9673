import DeliveryBench.Proofs.Broker.Soundness
import DeliveryBench.Worker.Site
import Mathlib.Tactic.Tauto

/-!
# Who is attached, ticket by ticket

`Broker.Manned b tickets` says that the consumers attached to a broker are those of a list of
tickets, in the order of the list, and that all of them listen. A subscribe that succeeds adds its
ticket at the end (`Manned.subscribe`); unsubscribing and dropping take the ticket out again
(`Manned.part`); publishing, polling and arranging failures leave everybody attached
(`Manned.of_plain`), because nobody has been dropped.

Caveat: it must not be arranged that unsubscribing fails, and no subscription may be dropped before
it has been given back.
-/

namespace DeliveryBench

namespace Group

variable {g : Group} {β : Type}

/-- As long as everybody listens, dealing only puts something on a queue. -/
theorem dispatch_consumers_map (listening : ∀ c ∈ g.consumers, c.listening = true) (m : Message)
    {f : Consumer → β} (same : ∀ c inbox, f { c with inbox := inbox } = f c) :
    (g.dispatch m).consumers.map f = g.consumers.map f := by
  revert listening
  refine dispatch_induction (motive := fun g h =>
    (∀ c ∈ g.consumers, c.listening = true) → h.consumers.map f = g.consumers.map f) ?_ ?_ ?_ g
  · intro g _ _
    rfl
  · intro g c _ _ _
    rw [enqueue_map _ _ _ same, pick_consumers]
  · intro g c there gone _ listening
    exact absurd (listening c (List.mem_of_getElem? there)) (by simp [gone])

theorem receive_consumers_map (g : Group) (queue : Nat) {f : Consumer → β}
    (same : ∀ c inbox, f { c with inbox := inbox } = f c) :
    (g.receive queue).2.consumers.map f = g.consumers.map f := by
  rcases receive_cases g queue with ⟨c, m, rest, -, -, result⟩ | ⟨-, unchanged⟩
  · rw [result]
    exact adjust_consumers_map g queue fun c => same c rest
  · rw [unchanged]

/-- A consumer that has been detached and dropped is gone, and nobody else is. -/
theorem Orderly.part_consumers (orderly : g.Orderly) {c : Consumer} (attached : c ∈ g.consumers) :
    ((g.detach c.id).release c.queue).consumers = g.consumers.filter fun d => d.id != c.id := by
  have others : ∀ d ∈ (g.detach c.id).consumers,
      (if d.queue = c.queue then { d with listening := false } else d) = d := by
    intro d stays
    obtain ⟨member, other⟩ := mem_detach_consumers.1 stays
    apply if_neg
    intro same
    have equal := List.inj_on_of_nodup_map orderly.queues (List.mem_append_left _ member)
      (List.mem_append_left _ attached) same
    exact other (congrArg Consumer.id equal)
  exact (List.map_congr_left others).trans (List.map_id _)

end Group

/-- A call that neither attaches nor detaches anybody by itself, nor makes unsubscribing fail. -/
def Call.isPlain : Call → Bool
  | .publish .. | .receive _ | .failAttempt _ | .failPublish _ => true
  | _ => false

theorem Call.isSubscribe_of_plain {c : Call} (plain : c.isPlain = true) : c.isSubscribe = false := by
  cases c with
  | subscribe target => cases plain
  | _ => rfl

namespace Moment

variable {x : Moment} {address : Address}

/-- A plain call does nothing to those attached but change their queues, if they all listen. -/
theorem attachedAt_of_plain {β : Type} (plain : x.call.isPlain = true)
    (listening : ∀ c ∈ x.before.attachedAt address, c.listening = true) {f : Consumer → β}
    (same : ∀ c inbox, f { c with inbox := inbox } = f c) :
    (x.after.attachedAt address).map f = (x.before.attachedAt address).map f := by
  have effect := x.effect address
  unfold Broker.attachedAt at listening ⊢
  generalize x.before.group? address = group? at effect listening ⊢
  generalize x.after.group? address = next at effect ⊢
  cases effect with
  | untouched => rfl
  | dealt => exact Group.dispatch_consumers_map listening _ same
  | polled => exact Group.receive_consumers_map _ _ same
  | joined call | left call | dropped call | shut call => simp [call, Call.isPlain] at plain

/-- There are at least as many attempts to subscribe as numbers given. -/
theorem nextConsumer_le_attempts (le : x.before.nextConsumer ≤ x.before.attempts) :
    x.after.nextConsumer ≤ x.after.attempts := by
  rw [attempts_after]
  rcases x.nextConsumer_after with ⟨next, -⟩ | ⟨target, ticket, call, -, -, next⟩
  · rw [next]
    exact Nat.le_trans le (Nat.le_add_right _ _)
  · rw [next, call]
    exact Nat.le_trans (Nat.mod_le _ _) (Nat.succ_le_succ le)

end Moment

namespace Broker

variable {b : Broker} {tickets : List Ticket} {ticket : Ticket} {address : Address}

/-! ## A broker with its tickets -/

structure Manned (b : Broker) (tickets : List Ticket) : Prop where
  sound : b.Sound
  room : b.nextConsumer ≤ b.attempts
  works : b.faults.unsubscribe = false
  attached : ∀ address, b.ticketsAt address = tickets.filter fun t => t.address == address
  listening : ∀ address, ∀ c ∈ b.attachedAt address, c.listening = true

theorem manned_new : Manned {} [] where
  sound := sound_new
  room := Nat.le_refl 0
  works := rfl
  attached := fun _ => rfl
  listening := fun _ _ member => nomatch member

/-- A single call keeps a broker sound, if it does not subscribe or there is room for a number. -/
theorem Sound.call (sound : b.Sound) (c : Call)
    (room : (if c.isSubscribe then 1 else 0) + b.nextConsumer < Word.limit) :
    (b.call c).2.Sound := by
  have counted : [c].countP Call.isSubscribe = if c.isSubscribe then 1 else 0 := by
    simp [List.countP_cons]
  exact sound.after [c] (counted ▸ room)

/-! ### Tickets are different -/

theorem Sound.attached_ids (sound : b.Sound) (address : Address) :
    ((b.attachedAt address).map Consumer.id).Nodup := by
  have distinct := sound.distinct address
  unfold idsAt at distinct
  unfold attachedAt
  cases there : b.group? address with
  | none => exact List.nodup_nil
  | some g =>
      rw [there] at distinct
      exact distinct.sublist ((List.sublist_append_left _ _).map _)

theorem Manned.distinct (manned : b.Manned tickets) (address : Address) :
    ((b.ticketsAt address).map Ticket.consumer).Nodup := by
  unfold ticketsAt
  rw [List.map_map]
  exact manned.sound.attached_ids address

theorem Manned.mem_ticketsAt (manned : b.Manned tickets) :
    ticket ∈ b.ticketsAt address ↔ ticket ∈ tickets ∧ ticket.address = address := by
  rw [manned.attached, List.mem_filter, beq_iff_eq]

theorem Manned.nodup (manned : b.Manned tickets) : tickets.Nodup := by
  rw [List.nodup_iff_count_le_one]
  intro ticket
  have once := List.nodup_iff_count_le_one.1 (List.Nodup.of_map _ (manned.distinct ticket.address))
    ticket
  rwa [manned.attached,
    List.count_filter (p := fun t : Ticket => t.address == ticket.address) (beq_self_eq_true _)]
    at once

/-- An address and a number tell a ticket apart. -/
theorem Manned.eq_iff (manned : b.Manned tickets) {other : Ticket} (known : other ∈ tickets)
    (held : ticket ∈ tickets) :
    other = ticket ↔ other.address = ticket.address ∧ other.consumer = ticket.consumer := by
  constructor
  · rintro rfl
    exact ⟨rfl, rfl⟩
  · rintro ⟨here, number⟩
    exact List.inj_on_of_nodup_map (manned.distinct ticket.address)
      (manned.mem_ticketsAt.2 ⟨known, here⟩) (manned.mem_ticketsAt.2 ⟨held, rfl⟩) number

/-! ### Calls -/

theorem Manned.of_plain {x : Moment} (manned : x.before.Manned tickets)
    (few : x.before.attempts < Word.limit) (plain : x.call.isPlain = true) :
    x.after.Manned tickets where
  sound := by
    apply manned.sound.call
    rw [Call.isSubscribe_of_plain plain]
    exact Nat.lt_of_le_of_lt (by simpa using manned.room) few
  room := Moment.nextConsumer_le_attempts manned.room
  works := by
    obtain ⟨b, call⟩ := x
    cases call with
    | failAttempt attempt | failPublish fail => exact manned.works
    | publish topic m | receive ticket =>
        exact (congrArg Faults.unsubscribe (Moment.faults_after rfl)).trans manned.works
    | _ => cases plain
  attached := by
    intro address
    rw [← manned.attached]
    exact Moment.attachedAt_of_plain plain (manned.listening address) fun _ _ => rfl
  listening := by
    intro address c member
    have same := Moment.attachedAt_of_plain plain (manned.listening address)
      (f := Consumer.listening) fun _ _ => rfl
    have old : c.listening ∈ (x.before.attachedAt address).map Consumer.listening :=
      same ▸ List.mem_map_of_mem member
    obtain ⟨d, before, equal⟩ := List.mem_map.1 old
    rw [← equal]
    exact manned.listening address d before

variable {target : Target}

theorem attachedAt_subscribe (orderly : b.OrderlyAt target.toAddress)
    (accepted : (b.subscribe target).1 = .ok ticket) (address : Address) :
    (b.subscribe target).2.attachedAt address = b.attachedAt address ++
      if address = target.toAddress then
        [{ id := ticket.consumer, queue := ticket.queue, mode := target.mode
           inbox := (b.groupFor target).backlog }]
      else [] := by
  split
  · rename_i here
    subst here
    obtain ⟨g, there, -, consumers, -⟩ := subscribe_hands_over orderly accepted
    rw [attachedAt_eq there, consumers]
    congr 1
    unfold groupFor attachedAt
    cases b.group? target.toAddress <;> rfl
  · rename_i elsewhere
    unfold attachedAt
    rw [group?_subscribe_ok (refusal?_of_accepted accepted), if_neg elsewhere, List.append_nil]

theorem address_of_accepted (accepted : (b.subscribe target).1 = .ok ticket) :
    ticket.address = target.toAddress := by
  rw [subscribe_fst_ok (refusal?_of_accepted accepted)] at accepted
  cases accepted
  rfl

/-- Sound, counted and without a fault, after another attempt to subscribe. -/
theorem Manned.attempt (manned : b.Manned tickets) (few : b.attempts + 1 < Word.limit)
    (target : Target) :
    (b.subscribe target).2.Sound ∧
      (b.subscribe target).2.nextConsumer ≤ (b.subscribe target).2.attempts ∧
      (b.subscribe target).2.faults.unsubscribe = false := by
  have room : 1 + b.nextConsumer < Word.limit := by
    rw [Nat.add_comm]
    exact Nat.lt_of_le_of_lt (Nat.succ_le_succ manned.room) few
  refine ⟨manned.sound.call (.subscribe target) room,
    Moment.nextConsumer_le_attempts (x := ⟨b, .subscribe target⟩) manned.room, ?_⟩
  exact (congrArg Faults.unsubscribe
    (Moment.faults_after (x := ⟨b, .subscribe target⟩) rfl)).trans manned.works

/-- A subscribe that succeeds adds its ticket. -/
theorem Manned.subscribe (manned : b.Manned tickets) (few : b.attempts + 1 < Word.limit)
    (accepted : (b.subscribe target).1 = .ok ticket) :
    (b.subscribe target).2.Manned (tickets ++ [ticket]) := by
  obtain ⟨sound, room, works⟩ := manned.attempt few target
  have attached := attachedAt_subscribe (manned.sound.orderly _) accepted
  have here := address_of_accepted accepted
  refine ⟨sound, room, works, ?_, ?_⟩
  · intro address
    rw [List.filter_append, ← manned.attached, ticketsAt, attached, List.map_append, ticketsAt]
    congr 1
    by_cases same : address = target.toAddress
    · subst same
      rw [if_pos rfl, List.filter_cons_of_pos (by simp [here]), List.filter_nil, ← here]
      rfl
    · rw [if_neg same, List.filter_cons_of_neg (by simp [here, Ne.symm same]), List.filter_nil]
      rfl
  · intro address c member
    rw [attached] at member
    rcases List.mem_append.1 member with old | new
    · exact manned.listening address c old
    · split at new
      · rw [List.mem_singleton.1 new]
      · cases new

/-- A subscribe that fails leaves everybody as they are. -/
theorem Manned.refused {e : BrokerError} (manned : b.Manned tickets)
    (few : b.attempts + 1 < Word.limit) (refused : (b.subscribe target).1 = .error e) :
    (b.subscribe target).2.Manned tickets := by
  obtain ⟨sound, room, works⟩ := manned.attempt few target
  have counted : (b.subscribe target).2 = { b with attempts := b.attempts + 1 } := by
    cases refusal : b.refusal? (b.attempts + 1) target with
    | some e => rw [subscribe_of_refused refusal]
    | none =>
        rw [subscribe_fst_ok refusal] at refused
        cases refused
  refine ⟨sound, room, works, ?_, ?_⟩
  · rw [counted]
    exact manned.attached
  · rw [counted]
    exact manned.listening

theorem Manned.exists_consumer (manned : b.Manned tickets) (held : ticket ∈ tickets) :
    ∃ g c, b.group? ticket.address = some g ∧ c ∈ g.consumers ∧
      c.id = ticket.consumer ∧ c.queue = ticket.queue := by
  have there : ticket ∈ b.ticketsAt ticket.address := manned.mem_ticketsAt.2 ⟨held, rfl⟩
  obtain ⟨c, attached, same⟩ := List.mem_map.1 there
  unfold attachedAt at attached
  split at attached
  · cases attached
  · rename_i g here
    exact ⟨g, c, here, attached, congrArg Ticket.consumer same, congrArg Ticket.queue same⟩

/-- Giving a subscription back and dropping it takes out the consumer that it belongs to. -/
theorem Manned.attachedAt_part (manned : b.Manned tickets) (held : ticket ∈ tickets)
    (address : Address) :
    ((b.unsubscribe ticket).2.release ticket).attachedAt address =
      if address = ticket.address then
        (b.attachedAt address).filter fun c => c.id != ticket.consumer
      else b.attachedAt address := by
  have detached := @group?_unsubscribe_ok b ticket manned.works address
  have dropped := group?_release (b.unsubscribe ticket).2 ticket address
  rw [detached] at dropped
  split
  · rename_i here
    subst here
    obtain ⟨g, c, there, attached, number, queue⟩ := manned.exists_consumer held
    rw [if_pos rfl, if_pos rfl, there] at dropped
    rw [attachedAt_eq there, attachedAt_eq dropped, ← number, ← queue]
    exact (manned.sound.orderly _ g there).part_consumers attached
  · rename_i elsewhere
    rw [if_neg elsewhere, if_neg elsewhere] at dropped
    unfold attachedAt
    rw [dropped]

theorem Manned.ticketsAt_part (manned : b.Manned tickets) (held : ticket ∈ tickets)
    (address : Address) :
    ((b.unsubscribe ticket).2.release ticket).ticketsAt address =
      (tickets.filter (· ≠ ticket)).filter fun t => t.address == address := by
  have left : ((b.unsubscribe ticket).2.release ticket).ticketsAt address =
      (b.ticketsAt address).filter fun t =>
        t.address != ticket.address || t.consumer != ticket.consumer := by
    unfold ticketsAt
    rw [manned.attachedAt_part held, List.filter_map]
    split
    · rename_i here
      subst here
      congr 2
      funext c
      simp
    · rename_i elsewhere
      have all : (fun c : Consumer => true) =
          (fun t : Ticket => t.address != ticket.address || t.consumer != ticket.consumer) ∘
            fun c => ⟨address, c.id, c.queue⟩ := by
        funext c
        simp [elsewhere]
      rw [← all, List.filter_true]
  rw [left, manned.attached, List.filter_filter, List.filter_filter]
  apply List.filter_congr
  intro t known
  rw [Bool.and_comm]
  congr 1
  rw [Bool.eq_iff_iff]
  simp only [Bool.or_eq_true, bne_iff_ne, ne_eq, decide_eq_true_eq, manned.eq_iff known held]
  tauto

/-- A subscription that is given back and dropped takes its ticket along. -/
theorem Manned.part (manned : b.Manned tickets) (few : b.attempts < Word.limit)
    (held : ticket ∈ tickets) :
    ((b.unsubscribe ticket).2.release ticket).Manned (tickets.filter (· ≠ ticket)) := by
  have room : 0 + b.nextConsumer < Word.limit := by
    rw [Nat.zero_add]
    exact Nat.lt_of_le_of_lt manned.room few
  have rest := b.unsubscribe_snd_eq ticket
  have detached : (b.unsubscribe ticket).2.Sound := manned.sound.call (.unsubscribe ticket) room
  have next : (b.unsubscribe ticket).2.nextConsumer = b.nextConsumer :=
    (congrArg Broker.nextConsumer rest :)
  refine ⟨?_, ?_, ?_, ?_, ?_⟩
  · exact detached.call (.release ticket) (by rw [next]; exact room)
  · show (b.unsubscribe ticket).2.nextConsumer ≤ (b.unsubscribe ticket).2.attempts
    rw [next, (congrArg Broker.attempts rest :)]
    exact manned.room
  · exact (congrArg (fun b => b.faults.unsubscribe) rest :).trans manned.works
  · exact manned.ticketsAt_part held
  · intro address c member
    rw [manned.attachedAt_part held] at member
    split at member
    · exact manned.listening address c (List.mem_filter.1 member).1
    · exact manned.listening address c member

end Broker

end DeliveryBench
