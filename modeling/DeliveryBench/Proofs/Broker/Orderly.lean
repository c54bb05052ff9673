import DeliveryBench.Ordering
import DeliveryBench.Proofs.Broker.Dispatch
import Mathlib.Data.List.Nodup
import Mathlib.Tactic.Tauto

/-!
# Groups in good order

`Group.Orderly` says what every group that a broker comes to have in common: its queues bear
different numbers, all below the number that the next one gets, and messages only wait while nobody
is attached. Every operation of a group keeps it.

The last clause is what makes `attach` simple (`Orderly.attach`): a consumer that finds messages
waiting is the only one there, so that all of them go to it, in their order, and it owns the keys of
all of them.
-/

namespace DeliveryBench.Group

variable {g : Group}

structure Orderly (g : Group) : Prop where
  queues : (g.members.map Consumer.queue).Nodup
  queue_lt : ∀ c ∈ g.members, c.queue < g.population
  idle : g.backlog ≠ [] → g.consumers = []

theorem orderly_new (mode : Mode) : Orderly { mode } where
  queues := List.nodup_nil
  queue_lt := fun _ member => nomatch member
  idle := fun _ => rfl

/-- Whatever moves the consumers about without changing their queues keeps the numbers apart. -/
theorem Orderly.of_perm {h : Group} (orderly : g.Orderly)
    (same : (h.members.map Consumer.queue).Perm (g.members.map Consumer.queue))
    (idle : h.backlog ≠ [] → h.consumers = []) : h.Orderly where
  queues := same.nodup_iff.2 orderly.queues
  queue_lt := by
    intro c member
    obtain ⟨d, old, queue⟩ := List.mem_map.1 (same.subset (List.mem_map_of_mem member))
    have size : h.population = g.population := by
      have lengths := same.length_eq
      rwa [List.length_map, List.length_map] at lengths
    rw [size, ← queue]
    exact orderly.queue_lt d old
  idle := idle

/-- Somebody attached means that nothing waits. -/
theorem Orderly.backlog_eq_nil (orderly : g.Orderly) (attached : g.consumers ≠ []) :
    g.backlog = [] := by
  by_contra waiting
  exact attached (orderly.idle waiting)

/-- In a group in good order a queue leads to its consumer. -/
theorem Orderly.consumer?_eq_some_iff (orderly : g.Orderly) {queue : Nat} {c : Consumer} :
    g.consumer? queue = some c ↔ c ∈ g.members ∧ c.queue = queue :=
  find?_eq_some_iff_of_nodup orderly.queues

/-- The group that a subscribe meets or makes is in good order. -/
theorem orderly_getD {group? : Option Group} (orderly : ∀ g, group? = some g → g.Orderly)
    (mode : Mode) : (group?.getD { mode := mode }).Orderly := by
  cases group? with
  | none => exact orderly_new mode
  | some g => exact orderly g rfl

theorem Orderly.inbox_eq (orderly : g.Orderly) {c : Consumer} (member : c ∈ g.members) :
    g.inbox c.queue = c.inbox := by
  have found := orderly.consumer?_eq_some_iff.2 ⟨member, rfl⟩
  unfold inbox
  rw [found]

/-! ## Dealing -/

/-- What does not depend on what is queued is the same before and after a message is put on a
queue. -/
theorem enqueue_map {β : Type} (g : Group) (index : Nat) (m : Message) {f : Consumer → β}
    (same : ∀ c inbox, f { c with inbox := inbox } = f c) :
    (g.enqueue index m).consumers.map f = g.consumers.map f := by
  apply List.ext_getElem?
  intro i
  simp only [enqueue, List.getElem?_map, List.getElem?_modify]
  split
  · cases g.consumers[i]? with
    | none => rfl
    | some c => exact congrArg some (same c _)
  · simp

theorem enqueue_queues (g : Group) (index : Nat) (m : Message) :
    (g.enqueue index m).members.map Consumer.queue = g.members.map Consumer.queue := by
  have same := enqueue_map g index m (f := Consumer.queue) fun _ _ => rfl
  simp only [members, List.map_append, same]
  rfl

theorem pick_members (g : Group) (key : Option String) : (g.pick key).2.members = g.members := by
  rw [members, pick_consumers, pick_departed, members]

theorem detach_queues (g : Group) (id : ConsumerId) :
    ((g.detach id).members.map Consumer.queue).Perm (g.members.map Consumer.queue) :=
  (detach_members_perm g id).map _

/-- Dealing moves consumers about and puts something on a queue, and that is all. -/
theorem dispatch_members_map {β : Type} (g : Group) (m : Message) {f : Consumer → β}
    (same : ∀ c inbox, f { c with inbox := inbox } = f c) :
    ((g.dispatch m).members.map f).Perm (g.members.map f) := by
  refine dispatch_induction (motive := fun g h => (h.members.map f).Perm (g.members.map f))
    ?_ ?_ ?_ g
  · intro g _
    exact .refl _
  · intro g c _ _
    have kept := enqueue_map (g.pick m.key).2 (g.pick m.key).1 m same
    rw [members, List.map_append, kept, ← List.map_append]
    exact .of_eq (congrArg _ (pick_members g m.key))
  · intro g c _ _ ih
    refine ih.trans ?_
    rw [← pick_members g m.key]
    exact (detach_members_perm _ _).map _

theorem Orderly.detach (orderly : g.Orderly) (id : ConsumerId) : (g.detach id).Orderly := by
  apply orderly.of_perm (detach_queues g id)
  intro waiting
  have deserted := orderly.idle waiting
  simp [Group.detach, deserted]

theorem Orderly.pick (orderly : g.Orderly) (key : Option String) : (g.pick key).2.Orderly := by
  apply orderly.of_perm (by rw [pick_members])
  rw [pick_backlog, pick_consumers]
  exact orderly.idle

theorem Orderly.dispatch (orderly : g.Orderly) (m : Message) : (g.dispatch m).Orderly := by
  revert orderly
  refine dispatch_induction (motive := fun g h => g.Orderly → h.Orderly) ?_ ?_ ?_ g
  · intro g deserted orderly
    exact orderly.of_perm (.refl _) fun _ => deserted
  · intro g c there _ orderly
    apply orderly.of_perm
    · rw [enqueue_queues, pick_members]
    · have attached : g.consumers ≠ [] := by
        rintro deserted
        simp [deserted] at there
      intro waiting
      exact absurd ((pick_backlog g m.key).trans (orderly.backlog_eq_nil attached)) waiting
  · intro g c _ _ ih orderly
    exact ih ((orderly.pick m.key).detach c.id)

/-! ## Attaching -/

/-- The only consumer gets every message, if it listens. -/
theorem dispatch_alone {c : Consumer} (alone : g.consumers = [c]) (listening : c.listening = true)
    (m : Message) :
    g.dispatch m =
      { (g.pick m.key).2 with consumers := [{ c with inbox := c.inbox ++ [m] }] } := by
  obtain ⟨d, there⟩ := pick_attached (g := g) (by simp [alone]) m.key
  have first : (g.pick m.key).1 = 0 := by
    have inside := (List.getElem?_eq_some_iff.1 there).1
    rw [alone, List.length_singleton] at inside
    omega
  rw [first, alone] at there
  obtain rfl : c = d := by simpa using there
  rw [dispatch_of_listening (c := c) (by rw [first, alone]; rfl) listening, first, enqueue,
    pick_consumers, alone]
  rfl

theorem foldl_dispatch_alone {c : Consumer} (alone : g.consumers = [c])
    (listening : c.listening = true) (ms : List Message) :
    (ms.foldl Group.dispatch g).consumers = [{ c with inbox := c.inbox ++ ms }] ∧
      (ms.foldl Group.dispatch g).departed = g.departed ∧
      (ms.foldl Group.dispatch g).backlog = g.backlog ∧
      (ms.foldl Group.dispatch g).mode = g.mode := by
  induction ms generalizing g c with
  | nil => simp [alone]
  | cons m rest ih =>
      rw [List.foldl_cons, dispatch_alone alone listening m]
      obtain ⟨consumers, departed, backlog, mode⟩ :=
        ih (g := { (g.pick m.key).2 with consumers := [{ c with inbox := c.inbox ++ [m] }] })
          rfl listening
      refine ⟨?_, departed.trans (pick_departed g _), backlog.trans (pick_backlog g _),
        mode.trans (pick_mode g _)⟩
      rw [consumers]
      simp

/-- A consumer that attaches gets everything that waits, in order, and nothing else changes. -/
theorem Orderly.attach_eq (orderly : g.Orderly) {c : Consumer} (listening : c.listening = true) :
    (g.attach c).consumers = g.consumers ++ [{ c with inbox := c.inbox ++ g.backlog }] ∧
      (g.attach c).departed = g.departed ∧
      (g.attach c).backlog = [] ∧
      (g.attach c).mode = g.mode := by
  by_cases quiet : g.backlog = []
  · simp [attach, quiet]
  · have deserted := orderly.idle quiet
    simp only [attach, deserted, List.nil_append]
    exact foldl_dispatch_alone rfl listening g.backlog

theorem Orderly.mem_attach_members (orderly : g.Orderly) {c d : Consumer}
    (listening : c.listening = true) :
    d ∈ (g.attach c).members ↔ d = { c with inbox := c.inbox ++ g.backlog } ∨ d ∈ g.members := by
  obtain ⟨consumers, departed, -, -⟩ := orderly.attach_eq listening
  rw [members, consumers, departed, members]
  simp only [List.mem_append, List.mem_singleton]
  tauto

theorem Orderly.attach (orderly : g.Orderly) {c : Consumer} (listening : c.listening = true)
    (queue : c.queue = g.population) : (g.attach c).Orderly := by
  obtain ⟨consumers, departed, backlog, -⟩ := orderly.attach_eq listening
  have added : (g.attach c).members.Perm
      ({ c with inbox := c.inbox ++ g.backlog } :: g.members) := by
    rw [members, consumers, departed, members, List.append_assoc]
    exact List.perm_middle
  have numbers : ((g.attach c).members.map Consumer.queue).Perm
      (g.population :: g.members.map Consumer.queue) := by
    rw [← queue]
    exact added.map Consumer.queue
  have size : (g.attach c).population = g.population + 1 := by
    exact added.length_eq
  have fresh : g.population ∉ g.members.map Consumer.queue := by
    intro used
    rcases List.mem_map.1 used with ⟨d, member, same⟩
    exact Nat.ne_of_lt (orderly.queue_lt d member) same
  refine ⟨numbers.nodup_iff.2 (List.nodup_cons.2 ⟨fresh, orderly.queues⟩), ?_, ?_⟩
  · intro d member
    rw [size]
    rcases List.mem_cons.1 (added.subset member) with rfl | old
    · rw [queue]
      exact Nat.lt_succ_self _
    · exact Nat.lt_succ_of_lt (orderly.queue_lt d old)
  · intro waiting
    exact absurd backlog waiting

/-! ## One consumer -/

theorem adjust_members (g : Group) (queue : Nat) (f : Consumer → Consumer) :
    (g.adjust queue f).members = g.members.map fun c => if c.queue = queue then f c else c := by
  simp [adjust, members]

theorem adjust_consumers_map {β : Type} (g : Group) (queue : Nat) {change : Consumer → Consumer}
    {f : Consumer → β} (same : ∀ c, f (change c) = f c) :
    (g.adjust queue change).consumers.map f = g.consumers.map f := by
  unfold adjust
  rw [List.map_map]
  apply List.map_congr_left
  intro c _
  simp only [Function.comp_apply]
  split
  · exact same c
  · rfl

theorem adjust_members_map {β : Type} (g : Group) (queue : Nat) {change : Consumer → Consumer}
    {f : Consumer → β} (same : ∀ c, f (change c) = f c) :
    (g.adjust queue change).members.map f = g.members.map f := by
  rw [adjust_members]
  -- as if everybody were attached
  exact adjust_consumers_map { g with consumers := g.members } queue same

theorem Orderly.adjust (orderly : g.Orderly) (queue : Nat) {f : Consumer → Consumer}
    (same : ∀ c, (f c).queue = c.queue) : (g.adjust queue f).Orderly := by
  apply orderly.of_perm (by rw [adjust_members_map g queue same])
  intro waiting
  have deserted := orderly.idle waiting
  simp [Group.adjust, deserted]

theorem Orderly.release (orderly : g.Orderly) (queue : Nat) : (g.release queue).Orderly :=
  orderly.adjust queue fun _ => rfl

/-- A poll hands out what it takes off the queue, or it changes nothing. -/
theorem receive_cases (g : Group) (queue : Nat) :
    (∃ c m rest, g.consumer? queue = some c ∧ c.inbox = m :: rest ∧
      g.receive queue = (.message m, g.adjust queue fun c => { c with inbox := rest })) ∨
    (∀ m, (g.receive queue).1 ≠ .message m) ∧ (g.receive queue).2 = g := by
  unfold receive
  split
  · exact .inr ⟨nofun, rfl⟩
  · rename_i c found
    split
    · rename_i m rest inbox
      exact .inl ⟨c, m, rest, found, inbox, rfl⟩
    · refine .inr ⟨?_, rfl⟩
      intro m
      split <;> nofun

theorem receive_members_map {β : Type} (g : Group) (queue : Nat) {f : Consumer → β}
    (same : ∀ c inbox, f { c with inbox := inbox } = f c) :
    (g.receive queue).2.members.map f = g.members.map f := by
  rcases receive_cases g queue with ⟨c, m, rest, -, -, result⟩ | ⟨-, unchanged⟩
  · rw [result]
    exact adjust_members_map g queue fun c => same c rest
  · rw [unchanged]

/-- A poll only touches queues. -/
theorem receive_rest (g : Group) (queue : Nat) :
    (g.receive queue).2.mode = g.mode ∧ (g.receive queue).2.cursor = g.cursor ∧
      (g.receive queue).2.consumers.length = g.consumers.length := by
  rcases receive_cases g queue with ⟨c, m, rest, -, -, result⟩ | ⟨-, same⟩
  · rw [result]
    exact ⟨rfl, rfl, List.length_map _⟩
  · rw [same]
    exact ⟨rfl, rfl, rfl⟩

theorem Orderly.receive (orderly : g.Orderly) (queue : Nat) : (g.receive queue).2.Orderly := by
  rcases receive_cases g queue with ⟨c, m, rest, -, -, result⟩ | ⟨-, same⟩
  · rw [result]
    exact orderly.adjust queue fun _ => rfl
  · rw [same]
    exact orderly

theorem Orderly.switchTo (orderly : g.Orderly) (mode : Mode) : (g.switchTo mode).Orderly := by
  unfold Group.switchTo
  split
  · exact orderly
  · exact orderly.of_perm (.refl _) orderly.idle

theorem switchTo_members (g : Group) (mode : Mode) : (g.switchTo mode).members = g.members := by
  unfold Group.switchTo
  split <;> rfl

theorem switchTo_population (g : Group) (mode : Mode) :
    (g.switchTo mode).population = g.population := by
  rw [population, switchTo_members, population]

theorem switchTo_inbox (g : Group) (mode : Mode) (queue : Nat) :
    (g.switchTo mode).inbox queue = g.inbox queue := by
  unfold inbox consumer?
  rw [switchTo_members]

theorem Orderly.shut (orderly : g.Orderly) : g.shut.Orderly := by
  apply orderly.of_perm
  · have moved : (g.departed ++ g.consumers).Perm g.members := List.perm_append_comm
    exact moved.map Consumer.queue
  · intro waiting
    exact absurd rfl waiting

end DeliveryBench.Group
