import DeliveryBench.Proofs.Broker.Accounts

/-!
# Who owns a key

In key-shared mode a key belongs to the consumer that was picked for it (`pick_owns`). Dealing any
message, with or without that key, leaves it there, unless the owner has been dropped and is taken
out on the occasion (`Owns.dispatch`). A consumer that attaches owns the keys of all that has been
waiting (`attach_owns`) and takes no key from anybody (`Owns.attach`).

Owners are numbers. Should two consumers of a group bear one number, they own keys and leave
together, which is why nothing here needs the numbers to be different.
-/

namespace DeliveryBench

namespace Group

variable {g : Group} {key : String} {id : ConsumerId}

/-- A key belongs to the attached consumer with a number. -/
structure Owns (g : Group) (key : String) (id : ConsumerId) : Prop where
  mode : g.mode = .keyShared
  owner : g.owners.lookup key = some id
  attached : ∃ c ∈ g.consumers, c.id = id

theorem Owns.unique {id' : ConsumerId} (owns : g.Owns key id) (owns' : g.Owns key id') :
    id = id' :=
  Option.some.inj (owns.owner.symm.trans owns'.owner)

/-! ## Owners and picking -/

theorem lookup_filter_key {owners : List (String × ConsumerId)} {other : String}
    (unlike : key ≠ other) :
    (owners.filter fun entry => entry.1 != other).lookup key = owners.lookup key := by
  induction owners with
  | nil => rfl
  | cons entry rest ih =>
      obtain ⟨name, owner⟩ := entry
      by_cases gone : name = other
      · subst gone
        rw [List.filter_cons, if_neg (by simp), ih, List.lookup_cons,
          beq_false_of_ne unlike]
      · rw [List.filter_cons, if_pos (by simp [gone]), List.lookup_cons, List.lookup_cons, ih]

private theorem lookup_filter_owner {owners : List (String × ConsumerId)} {gone : ConsumerId}
    (owner : owners.lookup key = some id) (stays : id ≠ gone) :
    (owners.filter fun entry => entry.2 != gone).lookup key = some id := by
  induction owners with
  | nil => cases owner
  | cons entry rest ih =>
      obtain ⟨name, holder⟩ := entry
      rw [List.lookup_cons] at owner
      by_cases same : key = name
      · subst same
        simp only [beq_self_eq_true, Option.some.injEq] at owner
        subst owner
        rw [List.filter_cons, if_pos (by simp [stays]), List.lookup_cons, beq_self_eq_true]
      · rw [beq_false_of_ne same] at owner
        rw [List.filter_cons]
        split
        · rw [List.lookup_cons, beq_false_of_ne same, ih owner]
        · exact ih owner

/-- Whoever is picked for a keyed message owns the key from then on. -/
theorem pick_owner {c : Consumer} (keyShared : g.mode = .keyShared)
    (there : g.consumers[(g.pick (some key)).1]? = some c) :
    (g.pick (some key)).2.owners.lookup key = some c.id := by
  cases owned : g.ownerIndex? key with
  | some index =>
      rw [pick_owned keyShared owned] at there ⊢
      rcases ownerIndex?_eq_some owned with ⟨d, found, owner⟩
      obtain rfl : d = c := Option.some.inj (found.symm.trans there)
      exact owner
  | none =>
      rw [pick_unowned keyShared owned] at there ⊢
      have found : g.rotate.2.consumers[g.rotate.1]? = some c := there
      rw [claim_of_getElem? found, List.lookup_cons, beq_self_eq_true]

theorem pick_owns {c : Consumer} {m : Message} (keyShared : g.mode = .keyShared)
    (keyed : m.key = some key) (there : g.consumers[(g.pick m.key).1]? = some c) :
    (g.pick m.key).2.Owns key c.id := by
  rw [keyed] at there ⊢
  refine ⟨(pick_mode g _).trans keyShared, pick_owner keyShared there, c, ?_, rfl⟩
  rw [pick_consumers]
  exact List.mem_of_getElem? there

theorem Owns.pick (owns : g.Owns key id) (key' : Option String) :
    (g.pick key').2.Owns key id := by
  refine ⟨(pick_mode g key').trans owns.mode, ?_, by rw [pick_consumers]; exact owns.attached⟩
  cases key' with
  | none =>
      rw [pick_unkeyed]
      exact owns.owner
  | some other =>
      by_cases same : other = key
      · subst same
        obtain ⟨c, attached, rfl⟩ := owns.attached
        obtain ⟨index, owned⟩ := Option.isSome_iff_exists.1
          (ownerIndex?_isSome owns.owner attached)
        rw [pick_owned owns.mode owned]
        exact owns.owner
      · cases owned : g.ownerIndex? other with
        | some index =>
            rw [pick_owned owns.mode owned]
            exact owns.owner
        | none =>
            rw [pick_unowned owns.mode owned, claim]
            split
            · exact owns.owner
            · rw [List.lookup_cons, beq_false_of_ne (Ne.symm same),
                lookup_filter_key (Ne.symm same)]
              exact owns.owner

/-! ## Owners and dealing -/

theorem Owns.detach {gone : ConsumerId} (owns : g.Owns key id) (stays : id ≠ gone) :
    (g.detach gone).Owns key id := by
  obtain ⟨c, attached, rfl⟩ := owns.attached
  exact ⟨owns.mode, lookup_filter_owner owns.owner stays,
    c, mem_detach_consumers.2 ⟨attached, stays⟩, rfl⟩

theorem mem_enqueue_consumers (index : Nat) (m : Message) {c : Consumer}
    (attached : c ∈ g.consumers) : ∃ d ∈ (g.enqueue index m).consumers, d.id = c.id := by
  rcases List.getElem_of_mem attached with ⟨i, inside, rfl⟩
  have inside' : i < (g.enqueue index m).consumers.length := by
    simpa [Group.enqueue] using inside
  refine ⟨_, List.getElem_mem inside', ?_⟩
  simp only [Group.enqueue, List.getElem_modify]
  split <;> rfl

theorem Owns.enqueue (owns : g.Owns key id) (index : Nat) (m : Message) :
    (g.enqueue index m).Owns key id := by
  obtain ⟨c, attached, rfl⟩ := owns.attached
  exact ⟨owns.mode, owns.owner, mem_enqueue_consumers index m attached⟩

/-- Dealing attaches nobody. -/
theorem dispatch_attached {m : Message} {c : Consumer} (attached : c ∈ (g.dispatch m).consumers) :
    ∃ d ∈ g.consumers, d.id = c.id := by
  revert attached
  refine dispatch_induction (motive := fun g h => c ∈ h.consumers → ∃ d ∈ g.consumers, d.id = c.id)
    ?_ ?_ ?_ g
  · intro g _ attached
    exact ⟨c, attached, rfl⟩
  · intro g _ _ _ attached
    rcases List.getElem_of_mem attached with ⟨i, inside, rfl⟩
    have inside' : i < g.consumers.length := by simpa [Group.enqueue] using inside
    refine ⟨_, List.getElem_mem inside', ?_⟩
    simp only [Group.enqueue, List.getElem_modify, pick_consumers]
    split <;> rfl
  · intro g d _ _ ih attached
    obtain ⟨e, stays, id⟩ := ih attached
    have old := (mem_detach_consumers.1 stays).1
    rw [pick_consumers] at old
    exact ⟨e, old, id⟩

/-- Dealing any message leaves a key with its owner, unless the owner has been dropped and is taken
out on this occasion. -/
theorem Owns.dispatch (owns : g.Owns key id) (m : Message) :
    (g.dispatch m).Owns key id ∨
      (∃ c ∈ g.consumers, c.id = id ∧ c.listening = false) ∧
        ∀ c ∈ (g.dispatch m).consumers, c.id ≠ id := by
  revert owns
  refine dispatch_induction (motive := fun g h => g.Owns key id → h.Owns key id ∨
    (∃ c ∈ g.consumers, c.id = id ∧ c.listening = false) ∧ ∀ c ∈ h.consumers, c.id ≠ id) ?_ ?_ ?_ g
  · intro g _ owns
    exact .inl ⟨owns.mode, owns.owner, owns.attached⟩
  · intro g c _ _ owns
    exact .inl ((owns.pick m.key).enqueue _ m)
  · intro g c there gone ih owns
    by_cases itself : id = c.id
    · subst itself
      refine .inr ⟨⟨c, List.mem_of_getElem? there, rfl, gone⟩, ?_⟩
      intro d attached same
      obtain ⟨e, stays, id⟩ := dispatch_attached attached
      exact (mem_detach_consumers.1 stays).2 (id.trans same)
    · rcases ih ((owns.pick m.key).detach itself) with still | ⟨⟨d, stays, number, deaf⟩, removed⟩
      · exact .inl still
      · have old := (mem_detach_consumers.1 stays).1
        rw [pick_consumers] at old
        exact .inr ⟨⟨d, old, number, deaf⟩, removed⟩

theorem dispatch_mode (g : Group) (m : Message) : (g.dispatch m).mode = g.mode := by
  refine dispatch_induction (motive := fun g h => h.mode = g.mode) ?_ ?_ ?_ g
  · intro g _
    rfl
  · intro g c _ _
    exact pick_mode g m.key
  · intro g c _ _ ih
    exact ih.trans (pick_mode g m.key)

theorem Owns.adjust (owns : g.Owns key id) (queue : Nat) {f : Consumer → Consumer}
    (same : ∀ c, (f c).id = c.id) : (g.adjust queue f).Owns key id := by
  obtain ⟨c, attached, rfl⟩ := owns.attached
  refine ⟨owns.mode, owns.owner, _, List.mem_map_of_mem attached, ?_⟩
  split
  · exact same c
  · rfl

theorem Owns.receive (owns : g.Owns key id) (queue : Nat) :
    (g.receive queue).2.Owns key id := by
  rcases receive_cases g queue with ⟨c, m, rest, -, -, result⟩ | ⟨-, same⟩
  · rw [result]
    exact owns.adjust queue fun _ => rfl
  · rw [same]
    exact owns

/-! ## Owners and attaching -/

/-- Whoever is alone ends up with every key of the messages that are dealt. -/
private theorem foldl_dispatch_owner {c : Consumer} (alone : g.consumers = [c])
    (listening : c.listening = true) (keyShared : g.mode = .keyShared) (ms : List Message)
    (either : g.Owns key c.id ∨ ∃ m ∈ ms, m.key = some key) :
    (ms.foldl Group.dispatch g).Owns key c.id := by
  induction ms generalizing g c with
  | nil => simpa using either
  | cons m rest ih =>
      have step := dispatch_alone alone listening m
      have alone' : (g.dispatch m).consumers = [{ c with inbox := c.inbox ++ [m] }] := by rw [step]
      apply ih alone' listening ((dispatch_mode g m).trans keyShared)
      rcases either with owns | ⟨m', member, keyed⟩
      · rcases owns.dispatch m with still | ⟨-, removed⟩
        · exact .inl still
        · have itself : { c with inbox := c.inbox ++ [m] } ∈ (g.dispatch m).consumers := by
            rw [alone']
            exact List.mem_singleton_self _
          exact (removed _ itself rfl).elim
      · rcases List.mem_cons.1 member with rfl | later
        · left
          obtain ⟨d, there⟩ := pick_attached (g := g) (by simp [alone]) m'.key
          obtain rfl : d = c := by
            have attached := List.mem_of_getElem? there
            rw [alone] at attached
            exact List.mem_singleton.1 attached
          rw [dispatch_of_listening there listening]
          exact (pick_owns keyShared keyed there).enqueue _ m'
        · exact .inr ⟨m', later, keyed⟩

theorem Owns.attach (owns : g.Owns key id) (orderly : g.Orderly) (c : Consumer) :
    (g.attach c).Owns key id := by
  obtain ⟨d, attached, rfl⟩ := owns.attached
  have quiet := orderly.backlog_eq_nil (List.ne_nil_of_mem attached)
  rw [Group.attach, quiet]
  exact ⟨owns.mode, owns.owner, d, List.mem_append_left _ attached, rfl⟩

/-- A consumer that attaches owns the keys of everything that has been waiting. -/
theorem attach_owns (orderly : g.Orderly) (keyShared : g.mode = .keyShared) {c : Consumer}
    (listening : c.listening = true) {m : Message} (waiting : m ∈ g.backlog)
    (keyed : m.key = some key) : (g.attach c).Owns key c.id := by
  have deserted := orderly.idle (List.ne_nil_of_mem waiting)
  have alone : ({ g with consumers := g.consumers ++ [c], backlog := [] } : Group).consumers
      = [c] := by
    rw [deserted]
    rfl
  exact foldl_dispatch_owner alone listening keyShared g.backlog (.inr ⟨m, waiting, keyed⟩)

/-! ## A message on a queue makes its consumer the owner -/

/-- Whatever has come to a queue of `h` since `g` has made the consumer the owner of its key. -/
def Earned (g h : Group) : Prop :=
  ∀ c ∈ h.members, ∀ m ∈ c.inbox.drop (g.inbox c.queue).length,
    h.mode = .keyShared → ∀ key, m.key = some key → h.Owns key c.id

theorem Earned.of_inbox {g' h : Group} (earned : Earned g h)
    (same : ∀ queue, g'.inbox queue = g.inbox queue) : Earned g' h := by
  intro c member m come
  rw [same] at come
  exact earned c member m come

/-- Nothing has come to a queue that is not longer than before. -/
theorem earned_of_shorter {h : Group} (orderly : g.Orderly)
    (shorter : ∀ c ∈ h.members, ∃ d ∈ g.members, d.queue = c.queue ∧
      c.inbox.length ≤ d.inbox.length) : Earned g h := by
  intro c member m come
  obtain ⟨d, old, queue, length⟩ := shorter c member
  rw [← queue, orderly.inbox_eq old, List.drop_eq_nil_of_le length] at come
  exact absurd come List.not_mem_nil

theorem earned_of_subset {h : Group} (orderly : g.Orderly)
    (subset : ∀ c ∈ h.members, c ∈ g.members) : Earned g h :=
  earned_of_shorter orderly fun c member => ⟨c, subset c member, rfl, Nat.le_refl _⟩

theorem earned_release (orderly : g.Orderly) (queue : Nat) : Earned g (g.release queue) := by
  apply earned_of_shorter orderly
  intro c member
  rcases mem_adjust_members.1 member with ⟨d, old, rfl⟩
  refine ⟨d, old, ?_⟩
  split <;> exact ⟨rfl, Nat.le_refl _⟩

theorem earned_take (orderly : g.Orderly) {c : Consumer} {m : Message} {rest : List Message}
    (member : c ∈ g.members) (inbox : c.inbox = m :: rest) :
    Earned g (g.adjust c.queue fun d => { d with inbox := rest }) := by
  apply earned_of_shorter orderly
  intro e taken
  rcases mem_adjust_members.1 taken with ⟨d, old, rfl⟩
  refine ⟨d, old, ?_⟩
  split
  · rename_i same
    obtain rfl : d = c := List.inj_on_of_nodup_map orderly.queues old member same
    rw [inbox]
    exact ⟨rfl, Nat.le_succ _⟩
  · exact ⟨rfl, Nat.le_refl _⟩

theorem earned_receive (orderly : g.Orderly) (queue : Nat) : Earned g (g.receive queue).2 := by
  rcases receive_cases g queue with ⟨c, m, rest, found, inbox, result⟩ | ⟨-, same⟩
  · rcases orderly.consumer?_eq_some_iff.1 found with ⟨member, rfl⟩
    rw [result]
    exact earned_take orderly member inbox
  · rw [same]
    exact earned_of_subset orderly fun _ member => member

/-- Dealing either leaves a queue as it is or adds the message to it, and then the consumer owns
the key of the message. -/
private theorem dispatch_queue (orderly : g.Orderly) (keyShared : g.mode = .keyShared) {m : Message}
    {c : Consumer} (member : c ∈ (g.dispatch m).members) :
    ∃ d ∈ g.members, d.queue = c.queue ∧ (c.inbox = d.inbox ∨ c.inbox = d.inbox ++ [m] ∧
      ∀ key, m.key = some key → (g.dispatch m).Owns key c.id) := by
  revert orderly keyShared member
  refine dispatch_induction (motive := fun g h => g.Orderly → g.mode = .keyShared →
    c ∈ h.members → ∃ d ∈ g.members, d.queue = c.queue ∧ (c.inbox = d.inbox ∨
      c.inbox = d.inbox ++ [m] ∧ ∀ key, m.key = some key → h.Owns key c.id)) ?_ ?_ ?_ g
  · intro g _ _ _ member
    exact ⟨c, member, rfl, .inl rfl⟩
  · intro g e there _ orderly keyShared member
    have there' : (g.pick m.key).2.consumers[(g.pick m.key).1]? = some e := by
      rw [pick_consumers]
      exact there
    rw [(orderly.pick m.key).enqueue_eq_adjust there', mem_adjust_members, pick_members] at member
    obtain ⟨d, old, rfl⟩ := member
    refine ⟨d, old, by split <;> rfl, ?_⟩
    by_cases same : d.queue = e.queue
    · have attached : e ∈ g.consumers := List.mem_of_getElem? there
      obtain rfl : d = e := List.inj_on_of_nodup_map orderly.queues old
        (List.mem_append_left _ attached) same
      rw [if_pos rfl]
      exact .inr ⟨rfl, fun key keyed => (pick_owns keyShared keyed there).enqueue _ m⟩
    · rw [if_neg same]
      exact .inl rfl
  · intro g e _ _ ih orderly keyShared member
    obtain ⟨d, old, rest⟩ := ih ((orderly.pick m.key).detach e.id)
      ((pick_mode g m.key).trans keyShared) member
    refine ⟨d, ?_, rest⟩
    have before := (detach_members_perm _ _).subset old
    rwa [pick_members] at before

theorem earned_dispatch (orderly : g.Orderly) (m : Message) : Earned g (g.dispatch m) := by
  intro c member m' come keyShared
  rw [dispatch_mode] at keyShared
  obtain ⟨d, old, queue, same | ⟨grown, owns⟩⟩ := dispatch_queue orderly keyShared member
  · rw [← queue, orderly.inbox_eq old, same, List.drop_length] at come
    exact absurd come List.not_mem_nil
  · rw [← queue, orderly.inbox_eq old, grown, List.drop_left, List.mem_singleton] at come
    subst come
    exact owns

theorem earned_attach (orderly : g.Orderly) {c : Consumer} (listening : c.listening = true)
    (empty : c.inbox = []) : Earned g (g.attach c) := by
  intro d member m come keyShared key keyed
  rw [(orderly.attach_eq listening).2.2.2] at keyShared
  rcases (orderly.mem_attach_members listening).1 member with rfl | old
  · have waiting := List.mem_of_mem_drop come
    rw [empty, List.nil_append] at waiting
    exact attach_owns orderly keyShared listening waiting keyed
  · rw [orderly.inbox_eq old, List.drop_length] at come
    exact absurd come List.not_mem_nil

end Group

end DeliveryBench
