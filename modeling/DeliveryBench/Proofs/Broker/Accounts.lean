import DeliveryBench.Proofs.Broker.Orderly

/-!
# Where the messages of a group are

The log of a group is what has been published for it. `Group.Accounts` gives every position of the
log one place, a queue or the backlog, and says that the places hold exactly what was sent to them,
in the order of the log: a consumer has received the first part of its share and has the rest on its
queue, and the backlog is the last stretch of the log.

The lemmas after it say how an operation of the group moves the places: a message that is dealt
adds a position, a consumer that attaches takes over those of the backlog, and everything else
leaves them where they are.
-/

namespace DeliveryBench

/-- Where a published message has gone. -/
inductive Place where
  /-- To the consumer with the queue of this number. -/
  | queue (number : Nat)
  | backlog
deriving DecidableEq

/-! ## Shares of a log -/

/-- The messages of a log whose positions have a certain place, in the order of the log. -/
def share (log : List Message) (places : List Place) (place : Place) : List Message :=
  ((log.zip places).filter fun entry => entry.2 == place).map Prod.fst

variable {log : List Message} {places : List Place}

theorem share_snoc (same : places.length = log.length) (m : Message) (here place : Place) :
    share (log ++ [m]) (places ++ [here]) place =
      share log places place ++ if here = place then [m] else [] := by
  unfold share
  rw [List.zip_append same.symm, List.filter_append, List.map_append]
  by_cases hit : here = place <;> simp [hit]

theorem share_append {log' : List Message} {places' : List Place}
    (same : places.length = log.length) (place : Place) :
    share (log ++ log') (places ++ places') place =
      share log places place ++ share log' places' place := by
  unfold share
  rw [List.zip_append same.symm, List.filter_append, List.map_append]

theorem share_eq_nil {place : Place} (absent : place ∉ places) : share log places place = [] := by
  unfold share
  rw [List.map_eq_nil_iff, List.filter_eq_nil_iff]
  rintro ⟨m, here⟩ member hit
  have there : here ∈ places := (List.of_mem_zip member).2
  obtain rfl : here = place := eq_of_beq hit
  exact absent there

theorem share_replicate {count : Nat} (size : log.length = count) (place : Place) :
    share log (List.replicate count place) place = log := by
  induction log generalizing count with
  | nil => rfl
  | cons m rest ih =>
      subst size
      have tail : share rest (List.replicate rest.length place) place = rest := ih rfl
      unfold share at tail ⊢
      rw [List.length_cons, List.replicate_succ, List.zip_cons_cons, List.filter_cons,
        if_pos (beq_self_eq_true place), List.map_cons, tail]

/-- Moving positions from one place to another, where nothing was before, moves the share. -/
theorem share_map {f : Place → Place} {place place' : Place}
    (same : ∀ here ∈ places, f here = place' ↔ here = place) :
    share log (places.map f) place' = share log places place := by
  unfold share
  rw [List.zip_map_right, List.filter_map, List.map_map]
  congr 1
  apply List.filter_congr
  rintro ⟨m, here⟩ member
  have there := (List.of_mem_zip member).2
  simp only [Function.comp_apply, Prod.map_snd, beq_eq_beq, same here there]

namespace Group

variable {g : Group} {received : Nat → List Message}

/-! ## Accounts -/

structure Accounts (g : Group) (received : Nat → List Message) (log : List Message)
    (places : List Place) : Prop where
  /-- Every position of the log has one place. -/
  length_eq : places.length = log.length
  /-- What a consumer has received and what is on its queue are its share. -/
  dealt : ∀ c ∈ g.members, received c.queue ++ c.inbox = share log places (.queue c.queue)
  /-- Nothing has gone to a queue that does not exist. -/
  known : ∀ number, .queue number ∈ places → ∃ c ∈ g.members, c.queue = number
  /-- Nothing has been received from one either. -/
  unknown : ∀ number, (∀ c ∈ g.members, c.queue ≠ number) → received number = []
  /-- What waits are the last messages of the log. -/
  waiting : ∃ gone, places = gone ++ List.replicate g.backlog.length .backlog ∧ .backlog ∉ gone
  suffix : g.backlog <:+ log

theorem accounts_new (mode : Mode) : Accounts { mode } (fun _ => []) [] [] where
  length_eq := rfl
  dealt := fun _ member => nomatch member
  known := fun _ member => nomatch member
  unknown := fun _ _ => rfl
  waiting := ⟨[], rfl, List.not_mem_nil⟩
  suffix := List.suffix_refl []

/-- The backlog is the share that is waiting. -/
theorem Accounts.backlog_eq (accounts : g.Accounts received log places) :
    g.backlog = share log places .backlog := by
  obtain ⟨gone, split, absent⟩ := accounts.waiting
  obtain ⟨before, parts⟩ := accounts.suffix
  have size : gone.length = before.length := by
    have total := accounts.length_eq
    rw [split, ← parts] at total
    simp only [List.length_append, List.length_replicate] at total
    omega
  rw [split, ← parts, share_append size, share_eq_nil absent, List.nil_append,
    share_replicate rfl]

/-- The queues of a group with their numbers. -/
def queues (g : Group) : List (Nat × List Message) :=
  g.members.map fun c => (c.queue, c.inbox)

/-- Whatever leaves the queues and the backlog alone leaves the accounts alone. -/
theorem Accounts.of_perm {h : Group} (accounts : g.Accounts received log places)
    (queues : h.queues.Perm g.queues) (backlog : h.backlog = g.backlog) :
    h.Accounts received log places := by
  have forth (c : Consumer) (member : c ∈ h.members) :
      ∃ d ∈ g.members, d.queue = c.queue ∧ d.inbox = c.inbox := by
    obtain ⟨d, old, same⟩ := List.mem_map.1 (queues.subset (List.mem_map_of_mem member))
    exact ⟨d, old, congrArg Prod.fst same, congrArg Prod.snd same⟩
  have back (c : Consumer) (member : c ∈ g.members) : ∃ d ∈ h.members, d.queue = c.queue := by
    obtain ⟨d, new, same⟩ := List.mem_map.1 (queues.symm.subset (List.mem_map_of_mem member))
    exact ⟨d, new, congrArg Prod.fst same⟩
  refine ⟨accounts.length_eq, ?_, ?_, ?_, ?_, ?_⟩
  · intro c member
    obtain ⟨d, old, queue, inbox⟩ := forth c member
    rw [← queue, ← inbox]
    exact accounts.dealt d old
  · intro number used
    obtain ⟨c, member, rfl⟩ := accounts.known number used
    exact back c member
  · intro number strange
    apply accounts.unknown
    intro c member queue
    obtain ⟨d, new, same⟩ := back c member
    exact strange d new (same.trans queue)
  · rw [backlog]
    exact accounts.waiting
  · rw [backlog]
    exact accounts.suffix

theorem Accounts.pick (accounts : g.Accounts received log places) (key : Option String) :
    (g.pick key).2.Accounts received log places := by
  apply accounts.of_perm
  · rw [queues, pick_members, queues]
  · exact pick_backlog g key

theorem Accounts.detach (accounts : g.Accounts received log places) (id : ConsumerId) :
    (g.detach id).Accounts received log places :=
  accounts.of_perm ((detach_members_perm g id).map _) rfl

theorem Accounts.switchTo (accounts : g.Accounts received log places) (mode : Mode) :
    (g.switchTo mode).Accounts received log places := by
  unfold Group.switchTo
  split
  · exact accounts
  · exact accounts.of_perm (.refl _) rfl

theorem Accounts.release (accounts : g.Accounts received log places) (queue : Nat) :
    (g.release queue).Accounts received log places := by
  have same : (g.release queue).queues = g.queues := adjust_members_map g queue fun _ => rfl
  exact accounts.of_perm (.of_eq same) rfl

/-! ## Dealing -/

private theorem map_of_absent {consumers : List Consumer} {queue : Nat} {f : Consumer → Consumer}
    (absent : ∀ d ∈ consumers, d.queue ≠ queue) :
    (consumers.map fun d => if d.queue = queue then f d else d) = consumers := by
  have same : (consumers.map fun d => if d.queue = queue then f d else d) = consumers.map id := by
    apply List.map_congr_left
    intro d member
    exact if_neg (absent d member)
  rw [same, List.map_id]

private theorem modify_eq_map {consumers : List Consumer} {index : Nat} {c : Consumer}
    {f : Consumer → Consumer} (distinct : (consumers.map Consumer.queue).Nodup)
    (there : consumers[index]? = some c) :
    consumers.modify index f = consumers.map fun d => if d.queue = c.queue then f d else d := by
  induction consumers generalizing index with
  | nil => cases there
  | cons d rest ih =>
      rcases List.nodup_cons.1 distinct with ⟨apart, distinct⟩
      cases index with
      | zero =>
          obtain rfl : d = c := Option.some.inj there
          have absent (e : Consumer) (member : e ∈ rest) : e.queue ≠ d.queue := by
            intro same
            exact apart (same ▸ List.mem_map_of_mem member)
          rw [List.modify_zero_cons, List.map_cons, if_pos rfl, map_of_absent absent]
      | succ index =>
          have later : c ∈ rest := List.mem_of_getElem? there
          have unlike : d.queue ≠ c.queue := by
            intro same
            exact apart (same ▸ List.mem_map_of_mem later)
          rw [List.modify_succ_cons, List.map_cons, if_neg unlike, ih distinct there]

/-- In a group in good order, putting a message on a queue changes nobody else. -/
theorem Orderly.enqueue_eq_adjust (orderly : g.Orderly) {index : Nat} {c : Consumer}
    (there : g.consumers[index]? = some c) (m : Message) :
    g.enqueue index m = g.adjust c.queue fun d => { d with inbox := d.inbox ++ [m] } := by
  have distinct := orderly.queues
  rw [members, List.map_append, List.nodup_append] at distinct
  obtain ⟨attached, -, apart⟩ := distinct
  have absent (d : Consumer) (member : d ∈ g.departed) : d.queue ≠ c.queue := by
    intro same
    exact apart c.queue (List.mem_map_of_mem (List.mem_of_getElem? there)) d.queue
      (List.mem_map_of_mem member) same.symm
  simp only [Group.enqueue, Group.adjust, modify_eq_map attached there, map_of_absent absent]

theorem mem_adjust_members {queue : Nat} {f : Consumer → Consumer} {c : Consumer} :
    c ∈ (g.adjust queue f).members ↔
      ∃ d ∈ g.members, (if d.queue = queue then f d else d) = c := by
  rw [adjust_members, List.mem_map]

/-- Putting a message on the queue of an attached consumer gives it the next position. -/
theorem Accounts.enqueue (accounts : g.Accounts received log places) (orderly : g.Orderly)
    {index : Nat} {c : Consumer} (there : g.consumers[index]? = some c) (m : Message) :
    (g.enqueue index m).Accounts received (log ++ [m]) (places ++ [.queue c.queue]) := by
  have attached : c ∈ g.consumers := List.mem_of_getElem? there
  have quiet : g.backlog = [] := orderly.backlog_eq_nil (List.ne_nil_of_mem attached)
  have queueOf (d : Consumer) : (if d.queue = c.queue then
      { d with inbox := d.inbox ++ [m] } else d).queue = d.queue := by
    split <;> rfl
  rw [orderly.enqueue_eq_adjust there]
  refine ⟨by simp [accounts.length_eq], ?_, ?_, ?_, ?_, ?_⟩
  · intro d' member
    rcases mem_adjust_members.1 member with ⟨d, old, rfl⟩
    rw [queueOf, share_snoc accounts.length_eq, ← accounts.dealt d old]
    by_cases same : d.queue = c.queue
    · rw [if_pos same, if_pos (congrArg Place.queue same.symm), List.append_assoc]
    · rw [if_neg same, if_neg (fun eq => same (Place.queue.inj eq).symm), List.append_nil]
  · intro number used
    obtain ⟨d, old, queue⟩ : ∃ d ∈ g.members, d.queue = number := by
      rcases List.mem_append.1 used with before | now
      · exact accounts.known number before
      · have queue := Place.queue.inj (List.mem_singleton.1 now)
        exact ⟨c, List.mem_append_left _ attached, queue.symm⟩
    exact ⟨_, mem_adjust_members.2 ⟨d, old, rfl⟩, (queueOf d).trans queue⟩
  · intro number strange
    apply accounts.unknown
    intro d old queue
    exact strange _ (mem_adjust_members.2 ⟨d, old, rfl⟩) ((queueOf d).trans queue)
  · obtain ⟨gone, split, absent⟩ := accounts.waiting
    rw [quiet, List.length_nil, List.replicate_zero, List.append_nil] at split
    subst split
    refine ⟨places ++ [.queue c.queue], ?_, by simp [absent]⟩
    show _ = _ ++ List.replicate g.backlog.length _
    rw [quiet, List.length_nil, List.replicate_zero, List.append_nil]
  · show g.backlog <:+ _
    rw [quiet]
    exact List.nil_suffix

/-- Keeping a message for later gives it the next position, too. -/
theorem Accounts.postpone (accounts : g.Accounts received log places) (m : Message) :
    (g.postpone m).Accounts received (log ++ [m]) (places ++ [.backlog]) := by
  refine ⟨by simp [accounts.length_eq], ?_, ?_, accounts.unknown, ?_, ?_⟩
  · intro c member
    rw [share_snoc accounts.length_eq, if_neg nofun, List.append_nil]
    exact accounts.dealt c member
  · intro number used
    rcases List.mem_append.1 used with before | now
    · exact accounts.known number before
    · cases List.mem_singleton.1 now
  · obtain ⟨gone, split, absent⟩ := accounts.waiting
    refine ⟨gone, ?_, absent⟩
    rw [split, List.append_assoc, Group.postpone, List.length_append, List.length_singleton,
      List.replicate_succ']
  · obtain ⟨before, parts⟩ := accounts.suffix
    exact ⟨before, by rw [← parts, Group.postpone, List.append_assoc]⟩

/-- Dealing gives the message the next position, wherever it goes. -/
theorem Accounts.dispatch (accounts : g.Accounts received log places) (orderly : g.Orderly)
    (m : Message) :
    ∃ place, (g.dispatch m).Accounts received (log ++ [m]) (places ++ [place]) := by
  revert accounts orderly
  refine dispatch_induction (motive := fun g h => g.Accounts received log places → g.Orderly →
    ∃ place, h.Accounts received (log ++ [m]) (places ++ [place])) ?_ ?_ ?_ g
  · intro g _ accounts _
    exact ⟨.backlog, accounts.postpone m⟩
  · intro g c there _ accounts orderly
    rw [← pick_consumers g m.key] at there
    exact ⟨.queue c.queue, (accounts.pick m.key).enqueue (orderly.pick m.key) there m⟩
  · intro g c _ _ ih accounts orderly
    exact ih ((accounts.pick m.key).detach c.id) ((orderly.pick m.key).detach c.id)

/-! ## Attaching and receiving -/

/-- The place of a position after a consumer has attached to a queue: nothing waits any more. -/
def takeOver (number : Nat) (place : Place) : Place :=
  if place = .backlog then .queue number else place

theorem takeOver_eq_queue_iff {number other : Nat} {place : Place} :
    takeOver number place = .queue other ↔
      place = .queue other ∨ place = .backlog ∧ number = other := by
  cases place <;> simp [takeOver]

theorem takeOver_ne_backlog (number : Nat) (place : Place) :
    takeOver number place ≠ .backlog := by
  cases place <;> simp [takeOver]

/-- A consumer that attaches takes over what waits, and its places. -/
theorem Accounts.attach (accounts : g.Accounts received log places) (orderly : g.Orderly)
    {c : Consumer} (listening : c.listening = true) (queue : c.queue = g.population)
    (empty : c.inbox = []) :
    (g.attach c).Accounts received log (places.map (takeOver c.queue)) := by
  obtain ⟨-, -, backlog, -⟩ := orderly.attach_eq listening
  have members (d : Consumer) : d ∈ (g.attach c).members ↔
      d = { c with inbox := g.backlog } ∨ d ∈ g.members := by
    rw [orderly.mem_attach_members listening, empty, List.nil_append]
  have fresh (d : Consumer) (old : d ∈ g.members) : d.queue ≠ c.queue := by
    rw [queue]
    exact Nat.ne_of_lt (orderly.queue_lt d old)
  have unused : .queue c.queue ∉ places := by
    intro used
    obtain ⟨d, old, same⟩ := accounts.known c.queue used
    exact fresh d old same
  refine ⟨by rw [List.length_map, accounts.length_eq], ?_, ?_, ?_, ?_, ?_⟩
  · intro d member
    rcases (members d).1 member with rfl | old
    · show received c.queue ++ g.backlog = share log _ (.queue c.queue)
      rw [accounts.unknown c.queue fresh, List.nil_append, accounts.backlog_eq]
      symm
      apply share_map
      intro here there
      have settled : here ≠ .queue c.queue := fun same => unused (same ▸ there)
      simp [takeOver_eq_queue_iff, settled]
    · rw [accounts.dealt d old]
      symm
      apply share_map
      intro here _
      simp [takeOver_eq_queue_iff, Ne.symm (fresh d old)]
  · intro number used
    rcases List.mem_map.1 used with ⟨here, there, same⟩
    rcases takeOver_eq_queue_iff.1 same with rfl | ⟨-, rfl⟩
    · obtain ⟨d, old, number⟩ := accounts.known number there
      exact ⟨d, (members d).2 (.inr old), number⟩
    · exact ⟨_, (members _).2 (.inl rfl), rfl⟩
  · intro number strange
    apply accounts.unknown
    intro d old
    exact strange d ((members d).2 (.inr old))
  · refine ⟨places.map (takeOver c.queue), by rw [backlog]; simp, ?_⟩
    intro waits
    rcases List.mem_map.1 waits with ⟨here, -, same⟩
    exact takeOver_ne_backlog c.queue here same
  · rw [backlog]
    exact List.nil_suffix

/-- Taking the oldest message off a queue moves it to what its consumer has received. -/
theorem Accounts.take (accounts : g.Accounts received log places) (orderly : g.Orderly)
    {c : Consumer} {m : Message} {rest : List Message} (member : c ∈ g.members)
    (inbox : c.inbox = m :: rest) :
    (g.adjust c.queue fun d => { d with inbox := rest }).Accounts
      (fun number => received number ++ if number = c.queue then [m] else []) log places := by
  have queueOf (d : Consumer) : (if d.queue = c.queue then
      { d with inbox := rest } else d).queue = d.queue := by
    split <;> rfl
  refine ⟨accounts.length_eq, ?_, ?_, ?_, accounts.waiting, accounts.suffix⟩
  · intro d' member'
    rcases mem_adjust_members.1 member' with ⟨d, old, rfl⟩
    rw [queueOf, ← accounts.dealt d old]
    by_cases same : d.queue = c.queue
    · obtain rfl : d = c := List.inj_on_of_nodup_map orderly.queues old member same
      rw [if_pos rfl, if_pos rfl, inbox, List.append_assoc]
      rfl
    · rw [if_neg same, if_neg same, List.append_nil]
  · intro number used
    obtain ⟨d, old, queue⟩ := accounts.known number used
    exact ⟨_, mem_adjust_members.2 ⟨d, old, rfl⟩, (queueOf d).trans queue⟩
  · intro number strange
    have notOld (d : Consumer) (old : d ∈ g.members) : d.queue ≠ number := by
      intro queue
      exact strange _ (mem_adjust_members.2 ⟨d, old, rfl⟩) ((queueOf d).trans queue)
    rw [accounts.unknown number notOld, if_neg (Ne.symm (notOld c member))]
    rfl

/-- The message that a poll hands out. -/
def handedOut : Reception → List Message
  | .message m => [m]
  | _ => []

theorem Accounts.receive (accounts : g.Accounts received log places) (orderly : g.Orderly)
    (queue : Nat) :
    (g.receive queue).2.Accounts
      (fun number => received number ++
        if number = queue then handedOut (g.receive queue).1 else []) log places := by
  rcases receive_cases g queue with ⟨c, m, rest, found, inbox, result⟩ | ⟨nothing, same⟩
  · rcases orderly.consumer?_eq_some_iff.1 found with ⟨member, rfl⟩
    rw [result]
    exact accounts.take orderly member inbox
  · have empty : handedOut (g.receive queue).1 = [] := by
      cases result : (g.receive queue).1 with
      | message m => exact absurd result (nothing m)
      | pending => rfl
      | ended => rfl
      | crashed text => rfl
    simpa [same, empty] using accounts

end Group

end DeliveryBench
