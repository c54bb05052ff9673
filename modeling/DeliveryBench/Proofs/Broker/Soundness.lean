import DeliveryBench.Proofs.Broker.Conservation
import DeliveryBench.Proofs.Broker.Stickiness

/-!
# What holds of every broker

`Broker.Sound` is what every broker that some calls can lead to has in common. Numbers tell its
consumers apart, at whatever address they have attached and whether or not they have left again, and
the next number is a new one. In a group, keys belong to attached consumers, and to nobody in shared
mode; all attached consumers want the group's mode; and messages only wait while nobody is attached.

Each operation of a group keeps its part (`Group.Sound`), the dealing of a message included, which
may make a consumer the owner of a key and take it out at once. The numbers are kept by
`Moment.numbered_after`: among all calls only a subscribe that succeeds brings a new one.

Caveat: numbers are 64-bit words, so all this holds as long as there have been fewer calls to
`subscribe` than words.
-/

namespace DeliveryBench

namespace Group

variable {g h : Group}

/-! ## Keys and modes -/

structure Sound (g : Group) : Prop where
  /-- Every key belongs to somebody who is attached. -/
  owners : ∀ entry ∈ g.owners, ∃ c ∈ g.consumers, c.id = entry.2
  shared : g.mode = .shared → g.owners = []
  modes : ∀ c ∈ g.consumers, c.mode = g.mode

theorem sound_new (mode : Mode) : Sound { mode } where
  owners := fun _ member => nomatch member
  shared := fun _ => rfl
  modes := fun _ member => nomatch member

/-- The group that a subscribe meets or makes is sound. -/
theorem sound_getD {group? : Option Group} (sound : ∀ g, group? = some g → g.Sound)
    (mode : Mode) : (group?.getD { mode := mode }).Sound := by
  cases group? with
  | none => exact sound_new mode
  | some g => exact sound g rfl

/-- The number of a consumer and the mode in which it subscribed. -/
def badge (c : Consumer) : ConsumerId × Mode :=
  (c.id, c.mode)

/-- What is on the queues does not matter. -/
theorem Sound.of_badges (sound : g.Sound) (mode : h.mode = g.mode) (owners : h.owners = g.owners)
    (badges : h.consumers.map badge = g.consumers.map badge) : h.Sound where
  owners := by
    intro entry member
    rw [owners] at member
    obtain ⟨c, attached, number⟩ := sound.owners entry member
    have same : badge c ∈ h.consumers.map badge := by
      rw [badges]
      exact List.mem_map_of_mem attached
    obtain ⟨d, attached', equal⟩ := List.mem_map.1 same
    exact ⟨d, attached', (congrArg Prod.fst equal).trans number⟩
  shared := by
    rw [mode, owners]
    exact sound.shared
  modes := by
    intro c attached
    have same : badge c ∈ g.consumers.map badge := by
      rw [← badges]
      exact List.mem_map_of_mem attached
    obtain ⟨d, attached', equal⟩ := List.mem_map.1 same
    rw [mode, ← sound.modes d attached']
    exact (congrArg Prod.snd equal).symm

theorem Sound.claim (sound : g.Sound) (keyShared : g.mode = .keyShared) (key : String)
    (index : Nat) : (g.claim key index).Sound := by
  unfold Group.claim
  split
  · exact sound
  · rename_i c there
    refine ⟨?_, ?_, sound.modes⟩
    · intro entry member
      rcases List.mem_cons.1 member with rfl | old
      · exact ⟨c, List.mem_of_getElem? there, rfl⟩
      · exact sound.owners entry (List.mem_filter.1 old).1
    · intro shared
      exact nomatch keyShared.symm.trans shared

theorem Sound.rotate (sound : g.Sound) : g.rotate.2.Sound :=
  sound.of_badges rfl rfl rfl

theorem Sound.pick (sound : g.Sound) (key : Option String) : (g.pick key).2.Sound := by
  unfold Group.pick
  split
  · rename_i keyShared
    split
    · exact sound
    · exact sound.rotate.claim keyShared _ _
  · exact sound.rotate

theorem Sound.detach (sound : g.Sound) (id : ConsumerId) : (g.detach id).Sound where
  owners := by
    intro entry member
    obtain ⟨old, stays⟩ := List.mem_filter.1 member
    obtain ⟨c, attached, number⟩ := sound.owners entry old
    have other : c.id ≠ id := by
      rw [number]
      simpa using stays
    exact ⟨c, mem_detach_consumers.2 ⟨attached, other⟩, number⟩
  shared := by
    intro shared
    have nobody : g.owners = [] := sound.shared shared
    simp [Group.detach, nobody]
  modes := fun c attached => sound.modes c (mem_detach_consumers.1 attached).1

/-- Dealing keeps keys with those who are attached: an owner that turns out to have gone loses the
key that it has just been given, with all its other keys. -/
theorem Sound.dispatch (sound : g.Sound) (m : Message) : (g.dispatch m).Sound := by
  revert sound
  refine dispatch_induction (motive := fun g h => g.Sound → h.Sound) ?_ ?_ ?_ g
  · intro g _ sound
    exact sound.of_badges (h := g.postpone m) rfl rfl rfl
  · intro g c _ _ sound
    exact (sound.pick m.key).of_badges rfl rfl (enqueue_map _ _ _ fun _ _ => rfl)
  · intro g c _ _ ih sound
    exact ih ((sound.pick m.key).detach c.id)

theorem Sound.attach (sound : g.Sound) {c : Consumer} (mode : c.mode = g.mode) :
    (g.attach c).Sound := by
  have joined : Sound { g with consumers := g.consumers ++ [c], backlog := [] } := by
    refine ⟨?_, sound.shared, ?_⟩
    · intro entry member
      obtain ⟨d, attached, number⟩ := sound.owners entry member
      exact ⟨d, List.mem_append_left _ attached, number⟩
    · intro d attached
      rcases List.mem_append.1 attached with old | new
      · exact sound.modes d old
      · rw [List.mem_singleton.1 new]
        exact mode
  unfold Group.attach
  generalize { g with consumers := g.consumers ++ [c], backlog := [] } = next at joined
  induction g.backlog generalizing next with
  | nil => exact joined
  | cons m rest ih => exact ih _ (joined.dispatch m)

/-- The mode only changes where nobody is attached. -/
theorem Sound.switchTo (sound : g.Sound) {mode : Mode} (welcome : g.refuses mode = false) :
    (g.switchTo mode).Sound := by
  unfold Group.switchTo
  split
  · exact sound
  · rename_i other
    have deserted : g.consumers = [] := by simpa [refuses, other] using welcome
    refine ⟨fun _ member => absurd member List.not_mem_nil, fun _ => rfl, ?_⟩
    intro c attached
    have nobody : c ∈ g.consumers := attached
    rw [deserted] at nobody
    cases nobody

theorem Sound.adjust (sound : g.Sound) (queue : Nat) {f : Consumer → Consumer}
    (same : ∀ c, badge (f c) = badge c) : (g.adjust queue f).Sound :=
  sound.of_badges (h := g.adjust queue f) rfl rfl (adjust_consumers_map g queue same)

theorem Sound.receive (sound : g.Sound) (queue : Nat) : (g.receive queue).2.Sound := by
  rcases receive_cases g queue with ⟨c, m, rest, -, -, result⟩ | ⟨-, same⟩
  · rw [result]
    exact sound.adjust queue fun _ => rfl
  · rw [same]
    exact sound

theorem sound_shut (g : Group) : g.shut.Sound where
  owners := fun _ member => nomatch member
  shared := fun _ => rfl
  modes := fun _ member => nomatch member

theorem switchTo_mode (g : Group) (mode : Mode) : (g.switchTo mode).mode = mode := by
  unfold switchTo
  split
  · assumption
  · rfl

/-! ## Numbers -/

/-- The numbers of all who have ever attached. -/
def ids (g : Group) : List ConsumerId :=
  g.members.map Consumer.id

theorem Orderly.attach_ids (orderly : g.Orderly) {c : Consumer} (listening : c.listening = true) :
    (g.attach c).ids.Perm (c.id :: g.ids) := by
  obtain ⟨consumers, departed, -, -⟩ := orderly.attach_eq listening
  rw [ids, ids, members, members, consumers, departed, List.append_assoc]
  exact List.perm_middle.map Consumer.id

theorem Orderly.attach_population (orderly : g.Orderly) {c : Consumer}
    (listening : c.listening = true) : (g.attach c).population = g.population + 1 := by
  have longer := (orderly.attach_ids listening).length_eq
  rwa [ids, ids, List.length_cons, List.length_map, List.length_map] at longer

end Group

/-! ## Calls -/

/-- The numbers of all who have ever attached at an address. -/
def Broker.idsAt (b : Broker) (address : Address) : List ConsumerId :=
  (b.group? address).elim [] Group.ids

/-- The groups of a broker are sound. -/
def Broker.SoundAt (b : Broker) (address : Address) : Prop :=
  ∀ g, b.group? address = some g → g.Sound

theorem Broker.soundAt_new (address : Address) : Broker.SoundAt {} address := nofun

namespace Moment

variable {x : Moment} {address : Address}

theorem soundAt_after (sound : x.before.SoundAt address) : x.after.SoundAt address := by
  have effect := x.effect address
  unfold Broker.SoundAt at sound ⊢
  generalize x.before.group? address = group? at effect sound
  generalize x.after.group? address = next at effect ⊢
  rintro h rfl
  cases effect with
  | untouched => exact sound h rfl
  | @joined _ old mode id _ _ _ oldEq welcome =>
      have before := Group.sound_getD sound mode
      rw [← oldEq] at before
      exact (before.switchTo welcome).attach (Group.switchTo_mode old mode).symm
  | dealt => exact (sound _ rfl).dispatch _
  | polled => exact (sound _ rfl).receive _
  | left => exact (sound _ rfl).detach _
  | dropped => exact (sound _ rfl).adjust _ fun _ => rfl
  | shut => exact Group.sound_shut _

/-- A call brings a new number to an address if it is a subscribe that succeeds there, and none
otherwise. -/
theorem idsAt_after (orderly : x.before.OrderlyAt address) :
    (x.after.idsAt address).Perm (x.before.idsAt address) ∨
      ∃ mode ticket, x.call = .subscribe ⟨address, mode⟩ ∧ x.answer = .ticket (.ok ticket) ∧
        (x.after.idsAt address).Perm (ticket.consumer :: x.before.idsAt address) := by
  have effect := x.effect address
  unfold Broker.OrderlyAt at orderly
  unfold Broker.idsAt
  generalize x.before.group? address = group? at effect orderly ⊢
  generalize x.after.group? address = next at effect ⊢
  cases effect with
  | untouched => exact .inl (.refl _)
  | @joined _ old mode id call _ answer oldEq _ =>
      refine .inr ⟨mode, _, call, answer, ?_⟩
      have ordered := (Group.orderly_getD orderly mode).switchTo mode
      rw [← oldEq] at ordered
      have same : (old.switchTo mode).ids = group?.elim [] Group.ids := by
        rw [Group.ids, Group.switchTo_members, oldEq]
        cases group? <;> rfl
      have joined := ordered.attach_ids
        (c := { id := id, queue := old.population, mode := mode }) rfl
      rw [same] at joined
      exact joined
  | dealt => exact .inl (Group.dispatch_members_map _ _ fun _ _ => rfl)
  | polled => exact .inl (.of_eq (Group.receive_members_map _ _ fun _ _ => rfl))
  | left => exact .inl ((Group.detach_members_perm _ _).map _)
  | dropped => exact .inl (.of_eq (Group.adjust_members_map _ _ fun _ => rfl))
  | @shut g =>
      have turned : (g.departed ++ g.consumers).Perm (g.consumers ++ g.departed) :=
        List.perm_append_comm
      exact .inl (turned.map Consumer.id)

/-- The next number changes with a subscribe that succeeds, who gets the one before. -/
theorem nextConsumer_after (x : Moment) :
    (x.after.nextConsumer = x.before.nextConsumer ∧ ∀ ticket, x.answer ≠ .ticket (.ok ticket)) ∨
    ∃ target ticket, x.call = .subscribe target ∧ x.answer = .ticket (.ok ticket) ∧
      ticket.consumer = x.before.nextConsumer ∧
      x.after.nextConsumer = Word.wrap (x.before.nextConsumer + 1) := by
  obtain ⟨b, call⟩ := x
  cases call with
  | subscribe target =>
      cases refusal : b.refusal? (b.attempts + 1) target with
      | some e =>
          left
          have result := Broker.subscribe_of_refused refusal
          refine ⟨congrArg (fun out => out.2.nextConsumer) result, ?_⟩
          intro ticket answer
          have accepted : Answer.ticket (b.subscribe target).1 = .ticket (.ok ticket) := answer
          rw [result] at accepted
          cases accepted
      | none =>
          right
          have result := Broker.subscribe_fst_ok refusal
          refine ⟨target, _, rfl, congrArg Answer.ticket result, rfl, ?_⟩
          show (b.subscribe target).2.nextConsumer = _
          simp only [Broker.subscribe, refusal]
  | publish topic m =>
      exact .inl ⟨(congrArg Broker.nextConsumer (b.publish_snd_eq topic m) :),
        fun _ answer => by cases answer⟩
  | receive ticket =>
      exact .inl ⟨(congrArg Broker.nextConsumer (b.receive_snd_eq ticket) :),
        fun _ answer => by cases answer⟩
  | unsubscribe ticket =>
      exact .inl ⟨(congrArg Broker.nextConsumer (b.unsubscribe_snd_eq ticket) :),
        fun _ answer => by cases answer⟩
  | close =>
      exact .inl ⟨(congrArg Broker.nextConsumer b.close_snd_eq :), fun _ answer => by cases answer⟩
  | release ticket | failAttempt attempt | failUnsubscribe fail | failPublish fail =>
      exact .inl ⟨rfl, fun _ answer => by cases answer⟩

end Moment

/-! ## Numbers tell consumers apart -/

/-- Numbers tell all apart who have ever attached anywhere, and the next one is new. -/
structure Broker.Numbered (b : Broker) : Prop where
  below : ∀ address, ∀ id ∈ b.idsAt address, id < b.nextConsumer
  distinct : ∀ address, (b.idsAt address).Nodup
  apart : ∀ address address', address ≠ address' → ∀ id ∈ b.idsAt address, id ∉ b.idsAt address'

theorem Broker.numbered_new : Broker.Numbered {} where
  below := fun _ _ member => nomatch member
  distinct := fun _ => List.nodup_nil
  apart := fun _ _ _ _ member => nomatch member

/-- Whoever subscribes. -/
def Call.isSubscribe : Call → Bool
  | .subscribe _ => true
  | _ => false

namespace Moment

variable {x : Moment}

theorem attempts_after (x : Moment) :
    x.after.attempts = x.before.attempts + if x.call.isSubscribe then 1 else 0 := by
  obtain ⟨b, call⟩ := x
  cases call with
  | subscribe target => exact (congrArg Broker.attempts (b.subscribe_snd_eq target) :)
  | publish topic m => exact (congrArg Broker.attempts (b.publish_snd_eq topic m) :)
  | receive ticket => exact (congrArg Broker.attempts (b.receive_snd_eq ticket) :)
  | unsubscribe ticket => exact (congrArg Broker.attempts (b.unsubscribe_snd_eq ticket) :)
  | close => exact (congrArg Broker.attempts b.close_snd_eq :)
  | release ticket | failAttempt attempt | failUnsubscribe fail | failPublish fail => rfl

/-- Where nobody attaches, all stay told apart. -/
private theorem numbered_of_perm (numbered : x.before.Numbered)
    (next : x.before.nextConsumer ≤ x.after.nextConsumer)
    (same : ∀ address, (x.after.idsAt address).Perm (x.before.idsAt address)) :
    x.after.Numbered where
  below := by
    intro address id member
    have old := numbered.below address id ((same address).subset member)
    exact Nat.lt_of_lt_of_le old next
  distinct := fun address => (same address).nodup_iff.2 (numbered.distinct address)
  apart := by
    intro address address' other id member member'
    exact numbered.apart address address' other id ((same address).subset member)
      ((same address').subset member')

/-- A subscribe that succeeds brings the next number to its address, and nothing elsewhere. -/
private theorem numbered_of_new (numbered : x.before.Numbered) {here : Address}
    (next : x.after.nextConsumer = x.before.nextConsumer + 1)
    (elsewhere : ∀ address, address ≠ here →
      (x.after.idsAt address).Perm (x.before.idsAt address))
    (joined : (x.after.idsAt here).Perm (x.before.nextConsumer :: x.before.idsAt here)) :
    x.after.Numbered := by
  have new (address : Address) : x.before.nextConsumer ∉ x.before.idsAt address := by
    intro used
    exact Nat.lt_irrefl _ (numbered.below address _ used)
  have known {address : Address} {id : ConsumerId} (member : id ∈ x.after.idsAt address) :
      id ∈ x.before.idsAt address ∨ address = here ∧ id = x.before.nextConsumer := by
    by_cases same : address = here
    · subst same
      rcases List.mem_cons.1 (joined.subset member) with rfl | old
      · exact .inr ⟨rfl, rfl⟩
      · exact .inl old
    · exact .inl ((elsewhere address same).subset member)
  refine ⟨?_, ?_, ?_⟩
  · intro address id member
    rw [next]
    rcases known member with old | ⟨-, rfl⟩
    · exact Nat.lt_succ_of_lt (numbered.below address id old)
    · exact Nat.lt_succ_self _
  · intro address
    by_cases same : address = here
    · subst same
      exact joined.nodup_iff.2 (List.nodup_cons.2 ⟨new address, numbered.distinct address⟩)
    · exact (elsewhere address same).nodup_iff.2 (numbered.distinct address)
  · intro address address' other id member member'
    rcases known member with old | ⟨rfl, rfl⟩
    · rcases known member' with old' | ⟨-, rfl⟩
      · exact numbered.apart address address' other id old old'
      · exact new address old
    · rcases known member' with old' | ⟨there, -⟩
      · exact new address' old'
      · exact other there.symm

/-- As long as there is room for another number, every call leaves all told apart. -/
theorem numbered_after (numbered : x.before.Numbered)
    (orderly : ∀ address, x.before.OrderlyAt address)
    (room : x.call.isSubscribe = true → Nat.succ x.before.nextConsumer < Word.limit) :
    x.after.Numbered := by
  rcases nextConsumer_after x with ⟨next, nobody⟩ | ⟨target, ticket, call, answer, number, next⟩
  · apply numbered_of_perm numbered (Nat.le_of_eq next.symm)
    intro address
    rcases idsAt_after (orderly address) with same | ⟨-, ticket, -, answer, -⟩
    · exact same
    · exact absurd answer (nobody ticket)
  · rw [Word.wrap_of_lt (room (by rw [call]; rfl))] at next
    have elsewhere (address : Address) (other : address ≠ target.toAddress) :
        (x.after.idsAt address).Perm (x.before.idsAt address) := by
      rcases idsAt_after (orderly address) with same | ⟨mode, -, call', -, -⟩
      · exact same
      · rw [call] at call'
        cases call'
        exact absurd rfl other
    rcases idsAt_after (orderly target.toAddress) with same | ⟨-, ticket', -, answer', joined⟩
    · apply numbered_of_perm numbered (by rw [next]; exact Nat.le_succ _)
      intro address
      by_cases here : address = target.toAddress
      · rw [here]
        exact same
      · exact elsewhere address here
    · rw [answer] at answer'
      cases answer'
      rw [number] at joined
      exact numbered_of_new numbered next elsewhere joined

end Moment

namespace Broker

variable {b : Broker} {target : Target} {ticket : Ticket}

structure Sound (b : Broker) : Prop extends b.Numbered where
  sound : ∀ address, b.SoundAt address
  orderly : ∀ address, b.OrderlyAt address

theorem sound_new : Sound {} where
  toNumbered := numbered_new
  sound := soundAt_new
  orderly := orderlyAt_new

/-- Any number of calls keep a broker sound, as long as there is room for the numbers of all who
subscribe. -/
theorem Sound.after (sound : b.Sound) (calls : List Call)
    (room : calls.countP Call.isSubscribe + b.nextConsumer < Word.limit) :
    (b.after calls).Sound := by
  induction calls generalizing b with
  | nil => exact sound
  | cons call rest ih =>
      let x : Moment := ⟨b, call⟩
      rw [List.countP_cons] at room
      have fits : call.isSubscribe = true → Nat.succ b.nextConsumer < Word.limit := by
        intro joins
        rw [if_pos joins] at room
        omega
      have later : rest.countP Call.isSubscribe + x.after.nextConsumer < Word.limit := by
        rcases x.nextConsumer_after with ⟨next, -⟩ | ⟨target, ticket, joins, -, -, next⟩
        · have same : x.after.nextConsumer = b.nextConsumer := next
          rw [same]
          omega
        · have subscribes : call.isSubscribe = true := by
            rw [show call = .subscribe target from joins]
            rfl
          have bumped : x.after.nextConsumer = Word.wrap (b.nextConsumer + 1) := next
          rw [if_pos subscribes] at room
          rw [bumped, Word.wrap_of_lt (fits subscribes)]
          omega
      have step : x.after.Sound :=
        { toNumbered := Moment.numbered_after sound.toNumbered sound.orderly fits
          sound := fun address => Moment.soundAt_after (sound.sound address)
          orderly := fun address => Moment.orderlyAt_after (sound.orderly address) }
      exact ih step later

/-- A broker is closed once it has been closed. -/
theorem isClosed_after_iff {calls : List Call} :
    (b.after calls).isClosed = true ↔ .close ∈ calls ∨ b.isClosed = true := by
  induction calls generalizing b with
  | nil => simp [after]
  | cons call rest ih =>
      have step : (b.call call).2.isClosed = true ↔ call = .close ∨ b.isClosed = true := by
        by_cases here : call = .close
        · exact iff_of_true (Moment.isClosed_of_close (x := ⟨b, call⟩) here) (.inl here)
        · rw [show (b.call call).2.isClosed = b.isClosed from
            Moment.isClosed_after (x := ⟨b, call⟩) here, or_iff_right here]
      show ((b.call call).2.after rest).isClosed = true ↔ _
      rw [ih, step, List.mem_cons, or_left_comm, or_assoc, eq_comm (a := call)]

theorem refusal?_of_accepted (accepted : (b.subscribe target).1 = .ok ticket) :
    b.refusal? (b.attempts + 1) target = none := by
  cases refusal : b.refusal? (b.attempts + 1) target with
  | none => rfl
  | some e =>
      rw [subscribe_of_refused refusal] at accepted
      cases accepted

/-- What waits at an address has been published for it last, in the same order. -/
theorem backlog_suffix (calls : List Call) (isOpen : ((Broker.after {} calls)).isClosed = false) :
    ((Broker.after {} calls).groupFor target).backlog <:+
      publishedFor {} target.toAddress calls := by
  have stays : .close ∉ calls := by
    intro closing
    rw [isClosed_after_iff.2 (.inl closing)] at isOpen
    cases isOpen
  have start : Tallied ((({} : Broker)).group? target.toAddress) (fun _ => []) [] := ⟨rfl, rfl⟩
  obtain ⟨places, accounts⟩ :=
    (tallied_after calls start (orderlyAt_new target.toAddress) stays).getD target.mode
  exact accounts.suffix

/-- A subscribe that succeeds hands everything that has been waiting to the consumer that it
attaches, in the order of waiting, and with it the keys. -/
theorem subscribe_hands_over (orderly : b.OrderlyAt target.toAddress)
    (accepted : (b.subscribe target).1 = .ok ticket) :
    ∃ g, (b.subscribe target).2.group? target.toAddress = some g ∧ g.backlog = [] ∧
      g.consumers = (b.groupFor target).consumers ++
        [{ id := ticket.consumer, queue := ticket.queue, mode := target.mode
           inbox := (b.groupFor target).backlog }] ∧
      (target.mode = .keyShared → ∀ m ∈ (b.groupFor target).backlog, ∀ key,
        m.key = some key → g.Owns key ticket.consumer) := by
  have refusal := refusal?_of_accepted accepted
  rw [subscribe_fst_ok refusal] at accepted
  cases accepted
  have ordered := (Group.orderly_getD orderly target.mode).switchTo target.mode
  have mode := Group.switchTo_mode (b.groupFor target) target.mode
  have consumers : ((b.groupFor target).switchTo target.mode).consumers =
      (b.groupFor target).consumers := by
    unfold Group.switchTo
    split <;> rfl
  have backlog : ((b.groupFor target).switchTo target.mode).backlog =
      (b.groupFor target).backlog := by
    unfold Group.switchTo
    split <;> rfl
  obtain ⟨all, -, nothing, -⟩ := ordered.attach_eq
    (c := { id := b.nextConsumer, queue := b.population target.toAddress
            mode := target.mode }) rfl
  refine ⟨_, by rw [group?_subscribe_ok refusal, if_pos rfl], nothing, ?_, ?_⟩
  · rw [all]
    show ((b.groupFor target).switchTo target.mode).consumers ++ [{
      id := b.nextConsumer, queue := b.population target.toAddress, mode := target.mode
      inbox := [] ++ ((b.groupFor target).switchTo target.mode).backlog }] = _
    rw [consumers, backlog, List.nil_append]
  · intro keyShared m waiting key keyed
    rw [← backlog] at waiting
    exact Group.attach_owns ordered (mode.trans keyShared) rfl waiting keyed

/-- **Every broker is sound.** After any calls, with fewer subscribes among them than there are
words, the numbers tell all consumers apart and the groups are in order. So a subscribe that
succeeds hands the whole backlog, which is what has been published last, in that order, to the
consumer that it attaches, leaves nothing waiting, and in key-shared mode makes that consumer the
owner of all keys in it. -/
theorem every_broker_is_sound (calls : List Call)
    (few : calls.countP Call.isSubscribe < Word.limit) (come : Broker.after {} calls = b) :
    b.Sound ∧
      ∀ (target : Target) (ticket : Ticket), (b.subscribe target).1 = .ok ticket →
        (b.groupFor target).backlog <:+ publishedFor {} target.toAddress calls ∧
        ∃ g, (b.subscribe target).2.group? target.toAddress = some g ∧ g.backlog = [] ∧
          g.consumers = (b.groupFor target).consumers ++
            [{ id := ticket.consumer, queue := ticket.queue, mode := target.mode
               inbox := (b.groupFor target).backlog }] ∧
          (target.mode = .keyShared → ∀ m ∈ (b.groupFor target).backlog, ∀ key,
            m.key = some key → g.Owns key ticket.consumer) := by
  subst come
  have sound : (Broker.after {} calls).Sound := sound_new.after calls few
  refine ⟨sound, ?_⟩
  intro target ticket accepted
  have isOpen : (Broker.after {} calls).isClosed = false :=
    (refusal?_eq_none_iff.1 (refusal?_of_accepted accepted)).1
  exact ⟨backlog_suffix calls isOpen,
    subscribe_hands_over (sound.orderly target.toAddress) accepted⟩

/-- A consumer leaves, messages of two keys wait, and the next one gets both. -/
theorem soundness_where_a_backlog_is_taken_over :
    let here : Address := ⟨"orders", "audit"⟩
    let note := fun n key => (⟨.ofNat n, "note", some key⟩ : Message)
    let calls : List Call := [.subscribe ⟨here, .keyShared⟩, .publish "orders" (note 0 "eu"),
      .unsubscribe ⟨here, 0, 0⟩, .publish "orders" (note 1 "eu"), .publish "orders" (note 2 "us")]
    let b := Broker.after {} calls
    calls.countP Call.isSubscribe < Word.limit ∧ b.Sound ∧
      (b.subscribe ⟨here, .keyShared⟩).1 = .ok ⟨here, 1, 1⟩ ∧
      ∃ g, (b.subscribe ⟨here, .keyShared⟩).2.group? here = some g ∧ g.backlog = [] ∧
        g.consumers = [{ id := 1, queue := 1, mode := .keyShared
                         inbox := [note 1 "eu", note 2 "us"] }] ∧
        g.Owns "us" 1 := by
  intro here note calls b
  have few : calls.countP Call.isSubscribe < Word.limit := by decide
  have accepted : (b.subscribe ⟨here, .keyShared⟩).1 = .ok ⟨here, 1, 1⟩ := by decide
  have left : (b.groupFor ⟨here, .keyShared⟩).consumers = [] := by decide
  have waiting : (b.groupFor ⟨here, .keyShared⟩).backlog = [note 1 "eu", note 2 "us"] := by decide
  obtain ⟨sound, handsOver⟩ := every_broker_is_sound (b := b) calls few rfl
  obtain ⟨-, g, there, quiet, consumers, owns⟩ := handsOver _ _ accepted
  rw [left, waiting] at consumers
  rw [waiting] at owns
  exact ⟨few, sound, accepted, g, there, quiet, consumers, owns rfl (note 2 "us") (by simp) "us" rfl⟩

end Broker

end DeliveryBench
