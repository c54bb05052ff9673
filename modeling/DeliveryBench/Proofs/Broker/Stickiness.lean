import DeliveryBench.Proofs.Broker.Effect
import DeliveryBench.Proofs.Broker.Ownership

/-!
# A key stays with its consumer

A call that puts a message on a queue in key-shared mode makes the consumer the owner of its key
(`Moment.Deals.owns`), and every later call leaves it the owner or takes it out of the group
(`Moment.owns_after`). So two messages with one key go to different consumers only if the first of
them leaves in between, which is `key_moves_only_when_its_owner_is_removed`.

Caveat: a broker tells consumers apart by their numbers, 64-bit words, and so do these statements.
-/

namespace DeliveryBench

theorem Broker.attachedAt_eq {b : Broker} {address : Address} {g : Group}
    (there : b.group? address = some g) : b.attachedAt address = g.consumers := by
  unfold Broker.attachedAt
  rw [there]

/-- Where there is no group, nothing is queued. -/
theorem Broker.inbox_getD (b : Broker) (address : Address) (mode : Mode) (queue : Nat) :
    b.inbox address queue = ((b.group? address).getD { mode := mode }).inbox queue := by
  unfold Broker.inbox
  cases b.group? address <;> rfl

namespace Moment

/-- A call puts a message on the queue of a consumer, while the subscription is in key-shared
mode. -/
def Deals (x : Moment) (address : Address) (c : Consumer) (m : Message) : Prop :=
  ∃ g, x.after.group? address = some g ∧ g.mode = .keyShared ∧ g.consumer? c.queue = some c ∧
    m ∈ x.placed address c.queue

/-- A call takes the consumer with a number out of a subscription. -/
structure Removes (x : Moment) (address : Address) (id : ConsumerId) : Prop where
  attached : ∃ c ∈ x.before.attachedAt address, c.id = id
  gone : ∀ c ∈ x.after.attachedAt address, c.id ≠ id
  /-- It unsubscribes, or it has been dropped and something is sent to it. -/
  reason :
    (∃ ticket, x.call = .unsubscribe ticket ∧ ticket.address = address ∧ ticket.consumer = id) ∨
    ((∃ m, x.call = .publish address.topic m) ∧
      ∃ c ∈ x.before.attachedAt address, c.id = id ∧ c.listening = false)

variable {x : Moment} {address : Address} {c : Consumer} {m : Message} {g h : Group}
  {key : String} {id : ConsumerId}

/-! ## A message that is put on a queue makes its consumer the owner -/

/-- Whatever a call puts on a queue makes the consumer the owner of its key. -/
theorem earned_after (orderly : x.before.OrderlyAt address)
    (there : x.after.group? address = some h) :
    Group.Earned ((x.before.group? address).getD { mode := .keyShared }) h := by
  have effect := x.effect address
  rw [there] at effect
  unfold Broker.OrderlyAt at orderly
  generalize x.before.group? address = group? at effect orderly ⊢
  cases effect with
  | untouched => exact Group.earned_of_subset (orderly h rfl) fun _ member => member
  | @joined _ old mode id _ _ _ oldEq _ =>
      have ordered := Group.orderly_getD orderly mode
      rw [← oldEq] at ordered
      have earned := Group.earned_attach (ordered.switchTo mode)
        (c := { id := id, queue := old.population, mode := mode }) rfl rfl
      apply earned.of_inbox
      intro queue
      rw [Group.switchTo_inbox, oldEq]
      cases group? <;> rfl
  | dealt => exact Group.earned_dispatch (orderly _ rfl) _
  | polled => exact Group.earned_receive (orderly _ rfl) _
  | left =>
      exact Group.earned_of_subset (orderly _ rfl)
        fun _ member => (Group.detach_members_perm _ _).subset member
  | dropped => exact Group.earned_release (orderly _ rfl) _
  | shut =>
      exact Group.earned_of_subset (orderly _ rfl)
        fun _ member => List.perm_append_comm.subset member

theorem Deals.owns (deals : x.Deals address c m) (keyed : m.key = some key)
    (orderly : x.before.OrderlyAt address) :
    ∃ g, x.after.group? address = some g ∧ g.Owns key c.id := by
  obtain ⟨g, there, keyShared, found, placed⟩ := deals
  have ordered := orderlyAt_after orderly g there
  have member := (ordered.consumer?_eq_some_iff.1 found).1
  refine ⟨g, there, earned_after orderly there c member m ?_ keyShared key keyed⟩
  have queued : x.after.inbox address c.queue = c.inbox := by
    unfold Broker.inbox
    rw [there]
    exact ordered.inbox_eq member
  unfold Moment.placed at placed
  rwa [queued, Broker.inbox_getD x.before address .keyShared] at placed

/-! ## An owner remains the owner until it leaves -/

theorem owns_after (before : x.before.group? address = some g) (orderly : g.Orderly)
    (owns : g.Owns key id) (stays : x.call ≠ .close) :
    (∃ h, x.after.group? address = some h ∧ h.Owns key id) ∨ x.Removes address id := by
  have effect := x.effect address
  have attached : ∃ c ∈ x.before.attachedAt address, c.id = id := by
    rw [Broker.attachedAt_eq before]
    exact owns.attached
  generalize there : x.after.group? address = next at effect
  rw [before] at effect
  cases effect with
  | untouched => exact .inl ⟨g, rfl, owns⟩
  | @joined _ old mode _ _ _ _ oldEq welcome =>
      obtain rfl : old = g := oldEq
      have present : old.consumers ≠ [] := by
        obtain ⟨c, member, -⟩ := owns.attached
        exact List.ne_nil_of_mem member
      have same : old.mode = mode := by
        simpa [Group.refuses, present] using welcome
      refine .inl ⟨_, rfl, ?_⟩
      rw [Group.switchTo, if_pos same]
      exact owns.attach orderly _
  | @dealt _ m call _ _ =>
      rcases owns.dispatch m with still | ⟨dropped, removed⟩
      · exact .inl ⟨_, rfl, still⟩
      · refine .inr ⟨attached, ?_, .inr ⟨⟨m, call⟩, ?_⟩⟩
        · rw [Broker.attachedAt_eq there]
          exact removed
        · rw [Broker.attachedAt_eq before]
          exact dropped
  | polled => exact .inl ⟨_, rfl, owns.receive _⟩
  | @left _ ticket call here _ =>
      by_cases same : id = ticket.consumer
      · refine .inr ⟨attached, ?_, .inl ⟨ticket, call, here, same.symm⟩⟩
        rw [Broker.attachedAt_eq there, same]
        intro c member
        exact (Group.mem_detach_consumers.1 member).2
      · exact .inl ⟨_, rfl, owns.detach same⟩
  | dropped => exact .inl ⟨_, rfl, owns.adjust _ fun _ => rfl⟩
  | shut call => exact absurd call stays

end Moment

namespace Broker

variable {address : Address} {key : String} {id : ConsumerId} {calls : List Call}

/-- From the moment on at which a consumer owns a key, it owns it, has been removed, or the broker
has been closed. -/
theorem owns_until_removed {i k : Nat} {x y : Moment} {g : Group}
    (early : (history {} calls)[i]? = some x) (there : x.after.group? address = some g)
    (owns : g.Owns key id) (late : (history {} calls)[i + k]? = some y) :
    (∃ h, y.after.group? address = some h ∧ h.Owns key id) ∨ y.after.isClosed = true ∨
      ∃ l z, i < l ∧ l ≤ i + k ∧ (history {} calls)[l]? = some z ∧ z.Removes address id := by
  induction k generalizing y with
  | zero =>
      obtain rfl : x = y := Option.some.inj (early.symm.trans late)
      exact .inl ⟨g, there, owns⟩
  | succ k ih =>
      rcases history_succ late with ⟨w, previous, same⟩
      have orderly := orderlyAt_of_history late address
      by_cases closing : y.call = .close
      · exact .inr (.inl (Moment.isClosed_of_close closing))
      · rcases ih previous with ⟨h, before, owner⟩ | closed | ⟨l, z, after, upTo, here, removes⟩
        · rw [← same] at before
          rcases Moment.owns_after before (orderly h before) owner closing with still | removes
          · exact .inl still
          · exact .inr (.inr ⟨i + k + 1, y, by omega, Nat.le_refl _, late, removes⟩)
        · rw [← same] at closed
          exact .inr (.inl ((Moment.isClosed_after closing).trans closed))
        · exact .inr (.inr ⟨l, z, after, Nat.le_succ_of_le upTo, here, removes⟩)

/-- **A key stays with its consumer.** If two messages with one key are put on the queues of two
different consumers of a subscription, both times in key-shared mode, then some call in between
takes the first consumer out of the subscription. -/
theorem key_moves_only_when_its_owner_is_removed (calls : List Call) (address : Address)
    {i j : Nat} {early late : Moment} {c d : Consumer} {m m' : Message} {key : String}
    (first : (history {} calls)[i]? = some early) (second : (history {} calls)[j]? = some late)
    (inOrder : i ≤ j) (keyed : m.key = some key) (keyed' : m'.key = some key)
    (deals : early.Deals address c m) (deals' : late.Deals address d m')
    (different : c.id ≠ d.id) :
    ∃ l z, i < l ∧ l ≤ j ∧ (history {} calls)[l]? = some z ∧ z.Removes address c.id := by
  rcases Nat.exists_eq_add_of_le inOrder with ⟨k, rfl⟩
  obtain ⟨g, there, owns⟩ := deals.owns keyed (orderlyAt_of_history first address)
  obtain ⟨h, there', owns'⟩ := deals'.owns keyed' (orderlyAt_of_history second address)
  rcases owns_until_removed first there owns second with ⟨h', same, still⟩ | isClosed | removed
  · obtain rfl : h = h' := Option.some.inj (there'.symm.trans same)
    exact absurd (still.unique owns') different
  · have deserted := desertedIfClosed_of_history second address
    obtain ⟨nobody, -⟩ := Moment.desertedIfClosed_after deserted isClosed h there'
    obtain ⟨e, attached, -⟩ := owns'.attached
    rw [nobody] at attached
    exact absurd attached List.not_mem_nil
  · exact removed

/-- The first of two consumers owns a key and is dropped; the next message with the key takes it out
and goes to the other one. -/
theorem a_key_moves_when_its_owner_is_dropped :
    let here : Address := ⟨"orders", "audit"⟩
    let note := fun n => (⟨.ofNat n, "note", some "eu"⟩ : Message)
    let joining : List Call := [.subscribe ⟨here, .keyShared⟩, .subscribe ⟨here, .keyShared⟩]
    let calls : List Call := joining ++
      [.publish "orders" (note 0), .release ⟨here, 0, 0⟩, .publish "orders" (note 1)]
    let early : Moment := ⟨after {} (calls.take 2), .publish "orders" (note 0)⟩
    let late : Moment := ⟨after {} (calls.take 4), .publish "orders" (note 1)⟩
    let c : Consumer := { id := 0, queue := 0, mode := .keyShared, inbox := [note 0] }
    let d : Consumer := { id := 1, queue := 1, mode := .keyShared, inbox := [note 1] }
    early.Deals here c (note 0) ∧ late.Deals here d (note 1) ∧
      ∃ l z, 2 < l ∧ l ≤ 4 ∧ (history {} calls)[l]? = some z ∧ z.Removes here c.id := by
  intro here note joining calls early late c d
  let e : Consumer := { id := 1, queue := 1, mode := .keyShared }
  let owned : Group :=
    { mode := .keyShared
      consumers := [c, e]
      cursor := 1
      owners := [("eu", 0)] }
  let moved : Group :=
    { mode := .keyShared
      consumers := [d]
      departed := [{ c with listening := false }]
      cursor := 2
      owners := [("eu", 1)] }
  have deals : early.Deals here c (note 0) := ⟨owned, by decide, rfl, by decide, by decide⟩
  have deals' : late.Deals here d (note 1) := ⟨moved, by decide, rfl, by decide, by decide⟩
  have first : (history {} calls)[2]? = some early := rfl
  have second : (history {} calls)[4]? = some late := rfl
  exact ⟨deals, deals',
    key_moves_only_when_its_owner_is_removed calls here first second (by decide) rfl rfl deals
      deals' (by decide)⟩

end Broker

end DeliveryBench
