import DeliveryBench.Broker.Group

/-!
# How a message is dealt

`Group.dispatch` is a loop with a bound on its attempts. The three equations
`dispatch_of_deserted`, `dispatch_of_listening` and `dispatch_of_gone` say what it does without
mentioning the bound: the message waits if nobody is attached, it goes to the consumer that is
picked if that one listens, and otherwise that consumer is detached and the message is dealt again.
`dispatch_induction` is the induction that follows these three cases.

Caveat: a consumer that has been dropped stays attached until it is picked, so "attached" and
"listening" have to be kept apart throughout.
-/

namespace DeliveryBench.Group

variable {g : Group}

/-! ## Picking leaves the consumers alone -/

@[simp] theorem rotate_fst (g : Group) : g.rotate.1 = g.cursor % g.consumers.length := rfl

/-- Claiming a key changes nothing but the owners. -/
theorem claim_eq (g : Group) (key : String) (index : Nat) :
    g.claim key index = { g with owners := (g.claim key index).owners } := by
  unfold claim
  cases g.consumers[index]? <;> rfl

theorem claim_of_getElem? {key : String} {index : Nat} {c : Consumer}
    (there : g.consumers[index]? = some c) :
    g.claim key index =
      { g with owners := (key, c.id) :: g.owners.filter fun entry => entry.1 != key } := by
  unfold claim
  rw [there]

/-- Picking changes nothing but the cursor and the owners. -/
theorem pick_snd_eq (g : Group) (key : Option String) :
    (g.pick key).2 =
      { g with cursor := (g.pick key).2.cursor, owners := (g.pick key).2.owners } := by
  unfold pick
  split
  · split
    · rfl
    · rw [claim_eq]
      rfl
  · rfl

@[simp] theorem pick_consumers (g : Group) (key : Option String) :
    (g.pick key).2.consumers = g.consumers := by
  rw [pick_snd_eq]

@[simp] theorem pick_departed (g : Group) (key : Option String) :
    (g.pick key).2.departed = g.departed := by
  rw [pick_snd_eq]

@[simp] theorem pick_backlog (g : Group) (key : Option String) :
    (g.pick key).2.backlog = g.backlog := by
  rw [pick_snd_eq]

@[simp] theorem pick_mode (g : Group) (key : Option String) :
    (g.pick key).2.mode = g.mode := by
  rw [pick_snd_eq]

/-! ## The place that is picked -/

theorem rotate_fst_lt (attached : g.consumers ≠ []) : g.rotate.1 < g.consumers.length :=
  Nat.mod_lt _ (List.length_pos_iff.2 attached)

/-- The place of an owner is the place of a consumer that bears the owner's number. -/
theorem ownerIndex?_eq_some {key : String} {index : Nat} (h : g.ownerIndex? key = some index) :
    ∃ c, g.consumers[index]? = some c ∧ g.owners.lookup key = some c.id := by
  rcases Option.bind_eq_some_iff.1 h with ⟨owner, lookup, found⟩
  rcases List.findIdx?_eq_some_iff_getElem.1 found with ⟨inside, same, -⟩
  refine ⟨g.consumers[index], List.getElem?_eq_getElem inside, ?_⟩
  rw [lookup, eq_of_beq same]

/-- An owner that is attached has a place. -/
theorem ownerIndex?_isSome {key : String} {c : Consumer} (lookup : g.owners.lookup key = some c.id)
    (attached : c ∈ g.consumers) : (g.ownerIndex? key).isSome := by
  unfold ownerIndex?
  rw [lookup]
  simp only [Option.bind_some, List.findIdx?_isSome, List.any_eq_true]
  exact ⟨c, attached, beq_self_eq_true _⟩

/-- A key that has an owner goes to its owner, and the turns stay as they are. -/
theorem pick_owned {key : String} {index : Nat} (keyShared : g.mode = .keyShared)
    (owned : g.ownerIndex? key = some index) : g.pick (some key) = (index, g) := by
  simp only [pick, keyShared, owned]

/-- A key without an owner goes to whoever is next, who owns it from then on. -/
theorem pick_unowned {key : String} (keyShared : g.mode = .keyShared)
    (unowned : g.ownerIndex? key = none) :
    g.pick (some key) = (g.rotate.1, g.rotate.2.claim key g.rotate.1) := by
  simp only [pick, keyShared, unowned]

theorem pick_shared (shared : g.mode = .shared) (key : Option String) :
    g.pick key = g.rotate := by
  unfold pick
  rw [shared]

theorem pick_unkeyed (g : Group) : g.pick none = g.rotate := by
  unfold pick
  cases g.mode <;> rfl

/-- Whoever is picked is attached. -/
theorem pick_attached (attached : g.consumers ≠ []) (key : Option String) :
    ∃ c, g.consumers[(g.pick key).1]? = some c := by
  have inTurn : ∃ c, g.consumers[g.rotate.1]? = some c :=
    ⟨_, List.getElem?_eq_getElem (rotate_fst_lt attached)⟩
  unfold pick
  split
  · split
    · rename_i index owned
      rcases ownerIndex?_eq_some owned with ⟨c, there, -⟩
      exact ⟨c, there⟩
    · exact inTurn
  · exact inTurn

/-! ## Detaching -/

theorem mem_detach_consumers {id : ConsumerId} {c : Consumer} :
    c ∈ (g.detach id).consumers ↔ c ∈ g.consumers ∧ c.id ≠ id := by
  simp [detach]

/-- Detaching somebody who is attached leaves fewer behind. -/
theorem length_detach_lt {c : Consumer} (attached : c ∈ g.consumers) :
    (g.detach c.id).consumers.length < g.consumers.length := by
  apply List.length_filter_lt_length_iff_exists.2
  exact ⟨c, attached, by simp⟩

/-- Without whoever is picked there are fewer left. -/
theorem length_detach_pick_lt {c : Consumer} {key : Option String}
    (there : g.consumers[(g.pick key).1]? = some c) :
    ((g.pick key).2.detach c.id).consumers.length < g.consumers.length := by
  have attached : c ∈ (g.pick key).2.consumers := by
    rw [pick_consumers]
    exact List.mem_of_getElem? there
  have fewer := length_detach_lt attached
  rwa [pick_consumers] at fewer

/-- Detaching only moves consumers from those attached to those departed. -/
theorem detach_members_perm (g : Group) (id : ConsumerId) :
    (g.detach id).members.Perm g.members := by
  have split : (g.consumers.filter (fun c => c.id != id)
      ++ g.consumers.filter fun c => c.id == id).Perm g.consumers := by
    have parts := List.filter_append_perm (fun c : Consumer => c.id != id) g.consumers
    simpa [bne] using parts
  have joined := split.append_right g.departed
  rw [List.append_assoc] at joined
  exact (List.perm_append_comm.append_left _).trans joined

/-! ## Dealing without the bound -/

theorem deal_succ (attempts : Nat) (m : Message) {c : Consumer}
    (there : g.consumers[(g.pick m.key).1]? = some c) :
    deal (attempts + 1) g m =
      if c.listening then (g.pick m.key).2.enqueue (g.pick m.key).1 m
      else deal attempts ((g.pick m.key).2.detach c.id) m := by
  have attached : g.consumers ≠ [] := by
    rintro deserted
    simp [deserted] at there
  rcases List.exists_cons_of_ne_nil attached with ⟨first, rest, consumers⟩
  rw [deal, consumers]
  simp only [pick_consumers, there]

theorem deal_of_deserted (attempts : Nat) (m : Message) (deserted : g.consumers = []) :
    deal attempts g m = g.postpone m := by
  cases attempts with
  | zero => rfl
  | succ attempts => rw [deal, deserted]

/-- More attempts than consumers make no difference. -/
theorem deal_eq_dispatch {attempts : Nat} {m : Message}
    (enough : g.consumers.length ≤ attempts) : deal attempts g m = g.dispatch m := by
  induction attempts using Nat.strongRecOn generalizing g with
  | ind attempts ih =>
      by_cases deserted : g.consumers = []
      · rw [deal_of_deserted attempts m deserted, dispatch, deal_of_deserted _ m deserted]
      · obtain ⟨c, there⟩ := pick_attached deserted m.key
        have fewer := length_detach_pick_lt there
        obtain ⟨count, counted⟩ : ∃ count, g.consumers.length = count + 1 :=
          Nat.exists_eq_succ_of_ne_zero (by omega)
        obtain ⟨more, attemptsEq⟩ : ∃ more, attempts = more + 1 :=
          Nat.exists_eq_succ_of_ne_zero (by omega)
        subst attemptsEq
        rw [dispatch, counted, deal_succ _ m there, deal_succ _ m there,
          ih more (by omega) (by omega), ih count (by omega) (by omega)]

/-- With nobody attached, the message waits. -/
theorem dispatch_of_deserted (m : Message) (deserted : g.consumers = []) :
    g.dispatch m = g.postpone m :=
  deal_of_deserted _ m deserted

private theorem dispatch_eq {m : Message} {c : Consumer}
    (there : g.consumers[(g.pick m.key).1]? = some c) :
    g.dispatch m =
      if c.listening then (g.pick m.key).2.enqueue (g.pick m.key).1 m
      else ((g.pick m.key).2.detach c.id).dispatch m := by
  rw [← deal_eq_dispatch (Nat.le_succ g.consumers.length), deal_succ _ m there]
  split
  · rfl
  · exact deal_eq_dispatch (Nat.le_of_lt (length_detach_pick_lt there))

/-- Whoever is picked and listens gets the message. -/
theorem dispatch_of_listening {m : Message} {c : Consumer}
    (there : g.consumers[(g.pick m.key).1]? = some c) (listening : c.listening = true) :
    g.dispatch m = (g.pick m.key).2.enqueue (g.pick m.key).1 m := by
  rw [dispatch_eq there, if_pos listening]

/-- Whoever is picked and does not listen is detached, and the message is dealt again. -/
theorem dispatch_of_gone {m : Message} {c : Consumer}
    (there : g.consumers[(g.pick m.key).1]? = some c) (gone : c.listening = false) :
    g.dispatch m = ((g.pick m.key).2.detach c.id).dispatch m := by
  rw [dispatch_eq there, if_neg (by rw [gone]; exact Bool.false_ne_true)]

/-- What is true of waiting and of handing over, and carries over from the group without a consumer
that has gone, is true of dealing. -/
theorem dispatch_induction {m : Message} {motive : Group → Group → Prop}
    (postpone : ∀ g, g.consumers = [] → motive g (g.postpone m))
    (enqueue : ∀ g c, g.consumers[(g.pick m.key).1]? = some c → c.listening = true →
      motive g ((g.pick m.key).2.enqueue (g.pick m.key).1 m))
    (detach : ∀ g c, g.consumers[(g.pick m.key).1]? = some c → c.listening = false →
      motive ((g.pick m.key).2.detach c.id) (((g.pick m.key).2.detach c.id).dispatch m) →
      motive g (((g.pick m.key).2.detach c.id).dispatch m))
    (g : Group) : motive g (g.dispatch m) := by
  generalize size : g.consumers.length = count
  induction count using Nat.strongRecOn generalizing g with
  | ind count ih =>
      by_cases deserted : g.consumers = []
      · rw [dispatch_of_deserted m deserted]
        exact postpone g deserted
      · obtain ⟨c, there⟩ := pick_attached deserted m.key
        cases listening : c.listening with
        | true =>
            rw [dispatch_of_listening there listening]
            exact enqueue g c there listening
        | false =>
            rw [dispatch_of_gone there listening]
            exact detach g c there listening
              (ih _ (size ▸ length_detach_pick_lt there) _ rfl)

end DeliveryBench.Group
