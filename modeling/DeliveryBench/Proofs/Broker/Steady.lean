import DeliveryBench.Proofs.Broker.Ownership
import Mathlib.Data.List.Range

/-!
# A group that nobody leaves

While the workers of a run are delivered its messages, consumers only come and all of them listen.
`Group.Steady` describes such a group: the consumer at each place bears the number of its place, and
nothing waits. Dealing then has an equation of its own (`Steady.dispatch_eq`), and the places of the
log can be told in advance: in shared mode they go round, in key-shared mode those of one key are
all the same (`Group.Dealt`).

Caveat: identifiers are words, queues are not. With more consumers than words two of them share an
identifier, but only the first of them is ever picked (`Steady.pick_lt`).
-/

namespace DeliveryBench.Group

variable {g : Group} {count : Nat} {log : List Message} {places : List Place}
  {received : Nat → List Message}

/-- What stands in a list that has grown at the end has stood there before or is new. -/
theorem getElem?_concat_cases {α : Type} {xs : List α} {x y : α} {i : Nat}
    (there : (xs ++ [x])[i]? = some y) : xs[i]? = some y ∨ i = xs.length ∧ x = y := by
  rcases Nat.lt_trichotomy i xs.length with old | rfl | beyond
  · rw [List.getElem?_append_left old] at there
    exact .inl there
  · rw [List.getElem?_concat_length] at there
    exact .inr ⟨rfl, Option.some.inj there⟩
  · rw [List.getElem?_eq_none (by simp; omega)] at there
    cases there

structure Steady (g : Group) (count : Nat) : Prop where
  departed : g.departed = []
  backlog : g.backlog = []
  size : g.consumers.length = count
  consumer : ∀ i c, g.consumers[i]? = some c →
    c.id = Word.wrap i ∧ c.queue = i ∧ c.listening = true
  cursor : g.cursor < Word.limit

theorem steady_new (mode : Mode) : Steady { mode } 0 where
  departed := rfl
  backlog := rfl
  size := rfl
  consumer := fun _ _ there => nomatch there
  cursor := Nat.two_pow_pos 64

theorem Steady.members (steady : g.Steady count) : g.members = g.consumers := by
  rw [Group.members, steady.departed, List.append_nil]

theorem Steady.queues (steady : g.Steady count) :
    g.members.map Consumer.queue = List.range count := by
  rw [steady.members]
  apply List.ext_getElem?
  intro i
  rw [List.getElem?_map]
  by_cases inside : i < count
  · have there := List.getElem?_eq_getElem (steady.size.symm ▸ inside)
    rw [there, Option.map_some, (steady.consumer i _ there).2.1, List.getElem?_range inside]
  · rw [List.getElem?_eq_none (by rw [steady.size]; omega),
      List.getElem?_eq_none (by rw [List.length_range]; omega)]
    rfl

theorem Steady.population (steady : g.Steady count) : g.population = count := by
  rw [Group.population, steady.members, steady.size]

theorem Steady.orderly (steady : g.Steady count) : g.Orderly where
  queues := by
    rw [steady.queues]
    exact List.nodup_range
  queue_lt := by
    intro c member
    rw [steady.population]
    have numbered := List.mem_map_of_mem (f := Consumer.queue) member
    rw [steady.queues] at numbered
    exact List.mem_range.1 numbered
  idle := fun waiting => absurd steady.backlog waiting

/-- The consumer at a place is the one with that queue. -/
theorem Steady.consumer? (steady : g.Steady count) {queue : Nat} (inside : queue < count) :
    ∃ c, g.consumer? queue = some c ∧ c ∈ g.members := by
  rw [← steady.size] at inside
  have member : g.consumers[queue] ∈ g.members := by
    rw [steady.members]
    exact List.getElem_mem inside
  refine ⟨_, steady.orderly.consumer?_eq_some_iff.2 ⟨member, ?_⟩, member⟩
  exact (steady.consumer queue _ (List.getElem?_eq_getElem inside)).2.1

/-! ## Coming, and receiving -/

theorem Steady.attach_eq (steady : g.Steady count) (c : Consumer) :
    g.attach c = { g with consumers := g.consumers ++ [c] } := by
  rw [Group.attach, steady.backlog]
  rfl

theorem Steady.attach (steady : g.Steady count) {c : Consumer} (id : c.id = Word.wrap count)
    (queue : c.queue = count) (listening : c.listening = true) :
    (g.attach c).Steady (count + 1) := by
  rw [steady.attach_eq]
  refine ⟨steady.departed, steady.backlog, ?_, ?_, steady.cursor⟩
  · rw [List.length_append, steady.size, List.length_singleton]
  · intro i d there
    rcases getElem?_concat_cases there with old | ⟨rfl, rfl⟩
    · exact steady.consumer i d old
    · rw [steady.size]
      exact ⟨id, queue, listening⟩

theorem Steady.adjust (steady : g.Steady count) (queue : Nat) {f : Consumer → Consumer}
    (same : ∀ c, (f c).id = c.id ∧ (f c).queue = c.queue ∧ (f c).listening = c.listening) :
    (g.adjust queue f).Steady count := by
  refine ⟨by simp [Group.adjust, steady.departed], steady.backlog, ?_, ?_, steady.cursor⟩
  · simp [Group.adjust, steady.size]
  · intro i d there
    simp only [Group.adjust, List.getElem?_map] at there
    rcases Option.map_eq_some_iff.1 there with ⟨c, old, rfl⟩
    split
    · obtain ⟨id, number, listening⟩ := same c
      rw [id, number, listening]
      exact steady.consumer i c old
    · exact steady.consumer i c old

theorem Steady.receive (steady : g.Steady count) (queue : Nat) :
    (g.receive queue).2.Steady count := by
  rcases receive_cases g queue with ⟨c, m, rest, -, -, result⟩ | ⟨-, same⟩
  · rw [result]
    exact steady.adjust queue fun _ => ⟨rfl, rfl, rfl⟩
  · rw [same]
    exact steady

/-! ## Dealing -/

/-- Whoever is picked is at a place that is also a word. -/
theorem Steady.pick_lt (steady : g.Steady count) (somebody : 0 < count) (key : Option String) :
    (g.pick key).1 < count ∧ (g.pick key).1 < Word.limit := by
  have inTurn : g.rotate.1 < count ∧ g.rotate.1 < Word.limit := by
    rw [rotate_fst, steady.size]
    exact ⟨Nat.mod_lt _ somebody, Nat.lt_of_le_of_lt (Nat.mod_le _ _) steady.cursor⟩
  unfold pick
  split
  · split
    · rename_i k index owned
      rcases Option.bind_eq_some_iff.1 owned with ⟨owner, -, found⟩
      rcases List.findIdx?_eq_some_iff_getElem.1 found with ⟨inside, same, first⟩
      have bears (i : Nat) (inside : i < g.consumers.length) :
          (g.consumers[i]).id = Word.wrap i :=
        (steady.consumer i _ (List.getElem?_eq_getElem inside)).1
      refine ⟨steady.size ▸ inside, ?_⟩
      -- Its identifier is a word, and the consumer at the place of that word bears it, too.
      by_contra beyond
      have word := Word.wrap_lt index
      have earlier := first (Word.wrap index) (by omega)
      rw [bears, Word.wrap_of_lt word, ← bears index inside, same] at earlier
      exact earlier rfl
    · exact inTurn
  · exact inTurn

theorem Steady.pick (steady : g.Steady count) (key : Option String) :
    (g.pick key).2.Steady count := by
  refine ⟨by rw [pick_departed]; exact steady.departed, by rw [pick_backlog]; exact steady.backlog,
    by rw [pick_consumers]; exact steady.size, by rw [pick_consumers]; exact steady.consumer, ?_⟩
  unfold Group.pick
  split
  · split
    · exact steady.cursor
    · rw [claim_eq]
      exact Word.wrap_lt _
  · exact Word.wrap_lt _

theorem Steady.enqueue (steady : g.Steady count) (index : Nat) (m : Message) :
    (g.enqueue index m).Steady count := by
  refine ⟨steady.departed, steady.backlog, ?_, ?_, steady.cursor⟩
  · rw [Group.enqueue, List.length_modify]
    exact steady.size
  · intro i d there
    simp only [Group.enqueue, List.getElem?_modify] at there
    rcases Option.map_eq_some_iff.1 there with ⟨c, old, rfl⟩
    split <;> exact steady.consumer i c old

/-- The consumer that is picked is there and listens. -/
theorem Steady.picked (steady : g.Steady count) (somebody : 0 < count) (key : Option String) :
    ∃ c, g.consumers[(g.pick key).1]? = some c ∧ c.id = (g.pick key).1 ∧
      c.queue = (g.pick key).1 ∧ c.listening = true := by
  obtain ⟨inside, word⟩ := steady.pick_lt somebody key
  have there := List.getElem?_eq_getElem (steady.size.symm ▸ inside)
  obtain ⟨id, queue, listening⟩ := steady.consumer _ _ there
  exact ⟨_, there, id.trans (Word.wrap_of_lt word), queue, listening⟩

theorem Steady.dispatch_eq (steady : g.Steady count) (somebody : 0 < count) (m : Message) :
    g.dispatch m = (g.pick m.key).2.enqueue (g.pick m.key).1 m := by
  obtain ⟨c, there, -, -, listening⟩ := steady.picked somebody m.key
  exact dispatch_of_listening there listening

theorem Steady.dispatch (steady : g.Steady count) (somebody : 0 < count) (m : Message) :
    (g.dispatch m).Steady count := by
  rw [steady.dispatch_eq somebody]
  exact (steady.pick m.key).enqueue _ m

/-- The message gets the place of the consumer that is picked. -/
theorem Steady.accounts_dispatch (steady : g.Steady count) (somebody : 0 < count)
    (accounts : g.Accounts received log places) (m : Message) :
    (g.dispatch m).Accounts received (log ++ [m]) (places ++ [.queue (g.pick m.key).1]) := by
  obtain ⟨c, there, -, queue, -⟩ := steady.picked somebody m.key
  rw [steady.dispatch_eq somebody]
  rw [← pick_consumers g m.key] at there
  have dealt := (accounts.pick m.key).enqueue (steady.pick m.key).orderly there m
  rwa [queue] at dealt

/-! ## Who is dealt what -/

/-- The law by which the places of a log come about. -/
structure Dealt (g : Group) (log : List Message) (places : List Place) : Prop where
  turns : g.mode = .shared → g.cursor = Word.wrap log.length ∧
    ∀ j < log.length, places[j]? = some (.queue (Word.wrap j % g.consumers.length))
  keys : g.mode = .keyShared → ∀ (j : Nat) (m : Message) (key : String), log[j]? = some m →
    m.key = some key → ∃ i < Word.limit, places[j]? = some (.queue i) ∧ g.Owns key i

theorem dealt_new (start : g.mode = .shared → g.cursor = 0) : g.Dealt [] [] where
  turns := fun shared => ⟨start shared, fun _ inside => nomatch inside⟩
  keys := fun _ _ _ _ there => nomatch there

theorem Steady.owns_dispatch (steady : g.Steady count) {key : String} {id : ConsumerId}
    (owns : g.Owns key id) (m : Message) : (g.dispatch m).Owns key id := by
  rcases owns.dispatch m with still | ⟨⟨c, attached, -, gone⟩, -⟩
  · exact still
  · rcases List.getElem_of_mem attached with ⟨i, inside, rfl⟩
    have listening := (steady.consumer i _ (List.getElem?_eq_getElem inside)).2.2
    rw [listening] at gone
    cases gone

theorem Dealt.dispatch (dealt : g.Dealt log places) (steady : g.Steady count)
    (somebody : 0 < count) (same : places.length = log.length) (m : Message) :
    (g.dispatch m).Dealt (log ++ [m]) (places ++ [.queue (g.pick m.key).1]) := by
  have size : (g.dispatch m).consumers.length = g.consumers.length := by
    rw [(steady.dispatch somebody m).size, steady.size]
  have here {j : Nat} (inside : j < log.length) (place : Place) :
      (places ++ [place])[j]? = places[j]? :=
    List.getElem?_append_left (same.symm ▸ inside)
  have last (place : Place) : (places ++ [place])[log.length]? = some place := by
    rw [← same, List.getElem?_concat_length]
  refine ⟨?_, ?_⟩
  · intro shared
    rw [dispatch_mode] at shared
    obtain ⟨cursor, turns⟩ := dealt.turns shared
    rw [size, List.length_append, List.length_singleton]
    refine ⟨?_, ?_⟩
    · rw [steady.dispatch_eq somebody, pick_shared shared]
      show Word.wrap (g.cursor + 1) = _
      rw [cursor, Word.wrap_wrap_succ]
    · intro j inside
      rcases Nat.lt_succ_iff_lt_or_eq.1 inside with old | rfl
      · rw [here old]
        exact turns j old
      · rw [last, pick_shared shared, rotate_fst, cursor]
  · intro keyShared j m' key there keyed
    rw [dispatch_mode] at keyShared
    rcases getElem?_concat_cases there with old | ⟨rfl, rfl⟩
    · obtain ⟨i, word, place, owns⟩ := dealt.keys keyShared j m' key old keyed
      rw [here (List.getElem?_eq_some_iff.1 old).1]
      exact ⟨i, word, place, steady.owns_dispatch owns m⟩
    · obtain ⟨-, word⟩ := steady.pick_lt somebody m.key
      obtain ⟨c, picked, id, -, -⟩ := steady.picked somebody m.key
      have owns := (pick_owns keyShared keyed picked).enqueue (g.pick m.key).1 m
      rw [id, ← steady.dispatch_eq somebody] at owns
      exact ⟨_, word, last _, owns⟩

theorem Dealt.receive (dealt : g.Dealt log places) (queue : Nat) :
    (g.receive queue).2.Dealt log places := by
  obtain ⟨mode, cursor, size⟩ := receive_rest g queue
  refine ⟨?_, ?_⟩
  · rw [mode, cursor, size]
    exact dealt.turns
  · rw [mode]
    intro keyShared j m key there keyed
    obtain ⟨i, word, place, owns⟩ := dealt.keys keyShared j m key there keyed
    exact ⟨i, word, place, owns.receive queue⟩

end DeliveryBench.Group
