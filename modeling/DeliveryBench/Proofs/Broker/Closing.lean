import DeliveryBench.Proofs.Broker.Effect

/-!
# Closing is final

`Broker.Over` says what a broker is like from the moment on at which it is closed: it stays closed,
nobody is attached, and nothing waits. Every call leaves it so (`Over.after`), and the calls that
could change this are turned away. All that is left are the queues of those who were attached once.
Only a poll takes something off a queue, the oldest message (`Over.inbox_of_polled`), and no call
puts anything on one (`Over.inbox_of_unpolled`), so that the polls on a queue hand out what was on it
when the broker was closed, message after message, and then nothing any more.

Caveat: an empty queue has only ended if its consumer is not attached. Before the closing the same
poll may have had to wait.
-/

namespace DeliveryBench

namespace Group

variable {g : Group}

/-! ## Polls -/

theorem consumer?_adjust (g : Group) (queue : Nat) {f : Consumer → Consumer}
    (same : ∀ c, (f c).queue = c.queue) (number : Nat) :
    (g.adjust queue f).consumer? number =
      (g.consumer? number).map fun c => if c.queue = queue then f c else c := by
  have unseen : (fun c : Consumer => c.queue == number) ∘
      (fun c => if c.queue = queue then f c else c) = fun c => c.queue == number := by
    funext c
    simp only [Function.comp_apply]
    split
    · rw [same]
    · rfl
  unfold consumer?
  rw [adjust_members, List.find?_map, unseen]

theorem queue_of_consumer? {queue : Nat} {c : Consumer} (found : g.consumer? queue = some c) :
    c.queue = queue := by
  have bears : (c.queue == queue) = true :=
    List.find?_some (p := fun c : Consumer => c.queue == queue) found
  exact eq_of_beq bears

/-- Whatever leaves the queues alone leaves what is on them. -/
theorem inbox_adjust_of_same (g : Group) (queue : Nat) {f : Consumer → Consumer}
    (same : ∀ c, (f c).queue = c.queue) {number : Nat}
    (kept : number = queue → ∀ c, (f c).inbox = c.inbox) :
    (g.adjust queue f).inbox number = g.inbox number := by
  unfold inbox
  rw [consumer?_adjust g queue same]
  cases found : g.consumer? number with
  | none => rfl
  | some c =>
      simp only [Option.map_some]
      split
      · rename_i here
        exact kept ((queue_of_consumer? found).symm.trans here) c
      · rfl

theorem isAttached_eq_false {queue : Nat} (unknown : g.consumer? queue = none) :
    g.isAttached queue = false := by
  rw [isAttached, List.any_eq_false]
  intro c attached
  exact List.find?_eq_none.1 unknown c (List.mem_append_left _ attached)

/-- A poll goes by what is on the queue. -/
theorem receive_fst_eq (g : Group) (queue : Nat) :
    (g.receive queue).1 = (g.inbox queue).head?.elim
      (if g.isAttached queue then .pending else .ended) .message := by
  unfold receive inbox
  split
  · rename_i unknown
    rw [isAttached_eq_false unknown]
    rfl
  · rename_i c found
    cases c.inbox <;> rfl

/-- A poll takes the oldest message off its queue and leaves the others alone. -/
theorem receive_inbox (g : Group) (queue number : Nat) :
    (g.receive queue).2.inbox number =
      if number = queue then (g.inbox number).tail else g.inbox number := by
  by_cases here : number = queue
  · subst here
    rw [if_pos rfl]
    cases found : g.consumer? number with
    | none => simp [receive, inbox, found]
    | some c =>
        have queue := queue_of_consumer? found
        cases waiting : c.inbox with
        | nil => simp [receive, inbox, found, waiting]
        | cons m rest =>
            simp only [receive, found, waiting, inbox]
            rw [consumer?_adjust g number (f := fun c => { c with inbox := rest }) fun _ => rfl,
              found, Option.map_some, if_pos queue]
            rfl
  · rw [if_neg here]
    rcases receive_cases g queue with ⟨c, m, rest, -, -, result⟩ | ⟨-, same⟩
    · rw [result]
      exact inbox_adjust_of_same g queue (f := fun c => { c with inbox := rest }) (fun _ => rfl)
        fun eq => absurd eq here
    · rw [same]

theorem release_inbox (g : Group) (queue number : Nat) :
    (g.release queue).inbox number = g.inbox number :=
  inbox_adjust_of_same g queue (f := fun c => { c with listening := false }) (fun _ => rfl)
    fun _ _ => rfl

/-- Where nobody is attached, only the departed are left. -/
theorem detach_inbox_of_deserted (deserted : g.consumers = []) (id : ConsumerId) (queue : Nat) :
    (g.detach id).inbox queue = g.inbox queue := by
  simp [inbox, consumer?, members, detach, deserted]

theorem shut_inbox_of_deserted (deserted : g.consumers = []) (queue : Nat) :
    g.shut.inbox queue = g.inbox queue := by
  simp [inbox, consumer?, members, shut, deserted]

/-- Shutting a group leaves everybody what is on the queue. -/
theorem Orderly.shut_inbox (orderly : g.Orderly) (queue : Nat) :
    g.shut.inbox queue = g.inbox queue := by
  have same : g.shut.consumer? queue = g.consumer? queue := by
    ext c
    rw [orderly.shut.consumer?_eq_some_iff, orderly.consumer?_eq_some_iff]
    have moved : c ∈ g.shut.members ↔ c ∈ g.members :=
      (@List.perm_append_comm _ g.departed g.consumers).mem_iff
    rw [moved]
  unfold inbox
  rw [same]

end Group

namespace Broker

variable {b : Broker} {x : Moment} {address : Address} {queue : Nat}

/-- What calls make of a queue follows from what they make of its group. -/
theorem inbox_map {b' : Broker} {f : Group → Group}
    (after : b'.group? address = (b.group? address).map f) {queue : Nat}
    {k : List Message → List Message} (nothing : k [] = [])
    (changed : ∀ g, b.group? address = some g → (f g).inbox queue = k (g.inbox queue)) :
    b'.inbox address queue = k (b.inbox address queue) := by
  unfold inbox
  rw [after]
  cases there : b.group? address with
  | none => exact nothing.symm
  | some g => exact changed g there

/-- Closing leaves everybody what is on the queue. -/
theorem inbox_close (orderly : b.OrderlyAt address) (queue : Nat) :
    b.close.2.inbox address queue = b.inbox address queue := by
  cases isClosed : b.isClosed with
  | true => simp [close, isClosed]
  | false =>
      exact inbox_map (group?_close_of_open isClosed address) (k := id) rfl
        fun g there => (orderly g there).shut_inbox queue

/-! ## A broker that is over -/

structure Over (b : Broker) : Prop where
  isClosed : b.isClosed = true
  deserted : ∀ address g, b.group? address = some g → g.consumers = [] ∧ g.backlog = []

theorem over_close (deserted : ∀ address, b.DesertedIfClosed address) : b.close.2.Over where
  isClosed := Moment.isClosed_of_close (x := ⟨b, .close⟩) rfl
  deserted := by
    intro address
    exact Moment.desertedIfClosed_after (x := ⟨b, .close⟩) (deserted address)
      (Moment.isClosed_of_close (x := ⟨b, .close⟩) rfl)

theorem Over.step (settled : x.before.Over) : x.after.Over := by
  have isClosed : x.after.isClosed = true := by
    by_cases closing : x.call = .close
    · exact Moment.isClosed_of_close closing
    · exact (Moment.isClosed_after closing).trans settled.isClosed
  refine ⟨isClosed, fun address => ?_⟩
  exact Moment.desertedIfClosed_after (fun _ => settled.deserted address) isClosed

theorem Over.after (settled : b.Over) (calls : List Call) : (b.after calls).Over :=
  after_induction (motive := Over) calls settled fun _ => Over.step

theorem Over.activeConsumers (settled : b.Over) (address : Address) :
    b.activeConsumers address = 0 := by
  unfold Broker.activeConsumers
  cases there : b.group? address with
  | none => rfl
  | some g => simp [(settled.deserted address g there).1]

theorem Over.backlog (settled : b.Over) (address : Address) : b.backlog address = 0 := by
  unfold Broker.backlog
  cases there : b.group? address with
  | none => rfl
  | some g => simp [(settled.deserted address g there).2]

theorem Over.subscribe (settled : b.Over) (target : Target) :
    b.subscribe target = (.error .closed, { b with attempts := b.attempts + 1 }) :=
  subscribe_of_refused (by simp [refusal?, settled.isClosed])

theorem Over.publish (settled : b.Over) (topic : String) (m : Message) :
    b.publish topic m = (.error .closed, b) := by
  rw [Broker.publish, if_pos settled.isClosed]

theorem Over.close (settled : b.Over) : b.close = (.ok (), b) := by
  rw [Broker.close, if_pos settled.isClosed]

/-! ## What is left on the queues -/

theorem Over.receive_fst (settled : b.Over) (ticket : Ticket) :
    (b.receive ticket).1 =
      (b.inbox ticket.address ticket.queue).head?.elim .ended .message := by
  unfold inbox
  cases there : b.group? ticket.address with
  | none => exact receive_fst_of_none there
  | some g =>
      have nobody : g.isAttached ticket.queue = false := by
        rw [Group.isAttached, (settled.deserted _ g there).1]
        rfl
      rw [Broker.receive_fst there, Group.receive_fst_eq, nobody]
      rfl

/-- The call that a poll is. -/
theorem exists_of_polled? {reception : Reception}
    (polled : x.polled? address queue = some reception) :
    ∃ ticket, x.call = .receive ticket ∧ ticket.address = address ∧ ticket.queue = queue ∧
      reception = (x.before.receive ticket).1 := by
  obtain ⟨b, call⟩ := x
  cases call with
  | receive ticket =>
      have asked : (if ticket.address = address ∧ ticket.queue = queue then
          some (b.receive ticket).1 else none) = some reception := polled
      split at asked
      · rename_i here
        exact ⟨ticket, rfl, here.1, here.2, (Option.some.inj asked).symm⟩
      · cases asked
  | _ => cases polled

/-- A poll answers with the oldest message on its queue and takes it off. -/
theorem Over.inbox_of_polled (settled : x.before.Over) {reception : Reception}
    (polled : x.polled? address queue = some reception) :
    reception = (x.before.inbox address queue).head?.elim .ended .message ∧
      x.after.inbox address queue = (x.before.inbox address queue).tail := by
  obtain ⟨ticket, call, rfl, rfl, rfl⟩ := exists_of_polled? polled
  refine ⟨settled.receive_fst ticket, ?_⟩
  have after : x.after.group? ticket.address =
      (x.before.group? ticket.address).map fun g => (g.receive ticket.queue).2 := by
    unfold Moment.after
    rw [call]
    exact (group?_receive _ ticket _).trans (if_pos rfl)
  refine inbox_map after (k := List.tail) rfl fun g _ => ?_
  rw [Group.receive_inbox, if_pos rfl]

/-- Any other call leaves the queue alone. -/
theorem Over.inbox_of_unpolled (settled : x.before.Over) (polled : x.polled? address queue = none) :
    x.after.inbox address queue = x.before.inbox address queue := by
  have deserted := settled.deserted address
  have effect := x.effect address
  unfold inbox
  generalize x.before.group? address = group? at effect deserted ⊢
  generalize x.after.group? address = next at effect ⊢
  cases effect with
  | untouched => rfl
  | joined _ isOpen | dealt _ isOpen => cases isOpen.symm.trans settled.isClosed
  | @polled g ticket call here answer =>
      have other : queue ≠ ticket.queue := by
        rintro rfl
        simp [Moment.polled?, call, answer, here] at polled
      exact (Group.receive_inbox g ticket.queue queue).trans (if_neg other)
  | left => exact Group.detach_inbox_of_deserted (deserted _ rfl).1 _ _
  | dropped => exact Group.release_inbox _ _ _
  | shut => exact Group.shut_inbox_of_deserted (deserted _ rfl).1 _

/-- The polls on a queue hand out what is on it, one message after the other, and then nothing. -/
theorem Over.pollsOf (settled : b.Over) (calls : List Call) {i : Nat} {reception : Reception}
    (answered : (b.pollsOf address queue calls)[i]? = some reception) :
    reception = (b.inbox address queue)[i]?.elim .ended .message := by
  induction calls generalizing b i with
  | nil => cases answered
  | cons call rest ih =>
      let x : Moment := ⟨b, call⟩
      have later : x.after.Over := Over.step settled
      have split : b.pollsOf address queue (call :: rest) =
          (x.polled? address queue).toList ++ x.after.pollsOf address queue rest := by
        unfold Broker.pollsOf
        rw [history, List.filterMap_cons]
        cases x.polled? address queue <;> rfl
      rw [split] at answered
      cases polled : x.polled? address queue with
      | none =>
          rw [polled] at answered
          rw [ih later answered, Over.inbox_of_unpolled settled polled]
      | some first =>
          rw [polled] at answered
          obtain ⟨oldest, others⟩ := Over.inbox_of_polled settled polled
          cases i with
          | zero =>
              obtain rfl : first = reception := Option.some.inj answered
              rwa [List.head?_eq_getElem?] at oldest
          | succ i =>
              rw [ih later answered, others, List.getElem?_tail]

/-- **Closing is final.** Whatever has been called before a broker is closed and is called
afterwards: nobody is attached any more and nothing waits; every subscribe and every publish is
turned away because the broker is closed, whatever has been arranged to fail, and changes nothing
but the number of attempts; closing again changes nothing. And the polls on a subscription hand out
what was on its queue when the broker was closed, in order, and then nothing any more. -/
theorem closing_is_final (calls later : List Call) :
    let b := Broker.after {} calls
    let b' := b.close.2.after later
    b.close.1 = .ok () ∧ b'.isClosed = true ∧
      (∀ address, b'.activeConsumers address = 0 ∧ b'.backlog address = 0) ∧
      (∀ target, b'.subscribe target = (.error .closed, { b' with attempts := b'.attempts + 1 })) ∧
      (∀ topic m, b'.publish topic m = (.error .closed, b')) ∧
      b'.close = (.ok (), b') ∧
      ∀ (ticket : Ticket) (i : Nat) (reception : Reception),
        (b.close.2.pollsOf ticket.address ticket.queue later)[i]? = some reception →
        reception = (b.inbox ticket.address ticket.queue)[i]?.elim .ended .message := by
  intro b b'
  have deserted (address : Address) : b.DesertedIfClosed address :=
    after_induction (motive := fun b => b.DesertedIfClosed address) calls
      (desertedIfClosed_new address) fun _ => Moment.desertedIfClosed_after
  have settled : b.close.2.Over := over_close deserted
  have still : b'.Over := settled.after later
  refine ⟨?_, still.isClosed, fun address => ⟨still.activeConsumers address, still.backlog address⟩,
    still.subscribe, still.publish, still.close, ?_⟩
  · unfold Broker.close
    split <;> rfl
  · intro ticket i reception answered
    have orderly : b.OrderlyAt ticket.address := orderlyAt_after calls (orderlyAt_new _)
    rw [settled.pollsOf later answered, inbox_close orderly]

/-- Two messages are left on a queue whose consumer unsubscribes between the polls. -/
theorem polls_after_closing :
    let here : Address := ⟨"orders", "audit"⟩
    let note := fun n => (⟨.ofNat n, "note", none⟩ : Message)
    let calls : List Call := [.subscribe ⟨here, .shared⟩, .subscribe ⟨here, .shared⟩,
      .publish "orders" (note 0), .publish "orders" (note 1), .publish "orders" (note 2),
      .failAttempt 3, .failPublish true]
    let later : List Call := [.receive ⟨here, 0, 0⟩, .unsubscribe ⟨here, 0, 0⟩,
      .publish "orders" (note 3), .receive ⟨here, 0, 0⟩, .receive ⟨here, 0, 0⟩]
    let b := Broker.after {} calls
    ((b.close.2.after later).subscribe ⟨here, .shared⟩).1 = .error .closed ∧
      (b.close.2.pollsOf here 0 later).length = 3 ∧
      ∀ (i : Nat) (reception : Reception), (b.close.2.pollsOf here 0 later)[i]? = some reception →
        reception = [note 0, note 2][i]?.elim .ended .message := by
  intro here note calls later b
  obtain ⟨-, -, -, refused, -, -, polls⟩ := closing_is_final calls later
  have waiting : b.inbox here 0 = [note 0, note 2] := by decide
  have asked : (b.close.2.pollsOf here 0 later).length = 3 := by decide
  refine ⟨congrArg Prod.fst (refused ⟨here, .shared⟩), asked, ?_⟩
  intro i reception answered
  rw [← waiting]
  exact polls ⟨here, 0, 0⟩ i reception answered

end Broker

end DeliveryBench
