import DeliveryBench.Proofs.Broker.Steady
import Mathlib.Data.Int.CardIntervalMod

/-!
# Taking turns

While nobody comes or goes and all listen, the messages that are dealt to a group fall into two
kinds. Those of a key that has an owner go to the owner and leave the rotation alone. All others
take turns (`Group.takesTurn`), and which these are can be told from the group at the beginning and
the messages alone: in key-shared mode they are those without a key, and the first one of each key
that nobody owned.

`Group.turns` lists the positions of these messages and `Group.routes` the places at which the
messages arrive. `Group.Dealing` is what is known after some messages have been dealt, and
`Dealing.dispatch` carries it over one more. In the end the places of the turns go round
(`Dealing.rotation`), so that every window of them as long as the group has all different places,
and no place gets two turns more than another.

Caveat: a cursor that runs over starts again at zero, wherever the turns are just then. Everything
here is about the time before.
-/

namespace DeliveryBench

namespace Group

variable {g h : Group} {m : Message} {key name : String} {index : Nat}

/-! ## Owners, as far as turns depend on them -/

theorem ownerIndex?_congr (owners : h.owners = g.owners)
    (ids : h.consumers.map Consumer.id = g.consumers.map Consumer.id) (key : String) :
    h.ownerIndex? key = g.ownerIndex? key := by
  have place (consumers : List Consumer) (owner : ConsumerId) :
      consumers.findIdx? (fun c => c.id == owner) =
        (consumers.map Consumer.id).findIdx? fun id => id == owner := by
    rw [List.findIdx?_map]
    rfl
  unfold ownerIndex?
  simp only [owners, place, ids]

theorem ownerIndex?_claim_self {c : Consumer} (there : g.consumers[index]? = some c) :
    ((g.claim key index).ownerIndex? key).isSome := by
  rw [claim_of_getElem? there]
  refine ownerIndex?_isSome (c := c) ?_ (List.mem_of_getElem? there)
  rw [List.lookup_cons, beq_self_eq_true]

theorem ownerIndex?_claim_of_ne (other : key ≠ name) :
    (g.claim name index).ownerIndex? key = g.ownerIndex? key := by
  unfold claim
  split
  · rfl
  · unfold ownerIndex?
    rw [List.lookup_cons, beq_false_of_ne other, lookup_filter_key other]

/-! ## Who takes a turn -/

/-- Whether a message takes a turn when it is dealt after some others: it does, unless its key has
an owner, in the group or through those before it. -/
def takesTurn (g : Group) (earlier : List Message) (m : Message) : Bool :=
  match g.mode, m.key with
  | .keyShared, some key => (g.ownerIndex? key).isNone && earlier.all fun e => e.key != some key
  | _, _ => true

/-- The positions of the messages that take a turn. -/
def turns (g : Group) (ms : List Message) : List Nat :=
  (List.range ms.length).filter fun j => ms[j]?.any (g.takesTurn (ms.take j))

/-- The places at which some messages arrive when they are dealt one after the other. -/
def routes : Group → List Message → List Nat
  | _, [] => []
  | g, m :: rest => (g.pick m.key).1 :: routes (g.dispatch m) rest

/-- Those among some messages that arrive at a place. -/
def arrivals (ms : List Message) (places : List Nat) (place : Nat) : List Message :=
  ((ms.zip places).filter fun entry => entry.2 == place).map Prod.fst

theorem turns_concat (g : Group) (ms : List Message) (m : Message) :
    g.turns (ms ++ [m]) = g.turns ms ++ if g.takesTurn ms m then [ms.length] else [] := by
  unfold turns
  rw [List.length_append, List.length_singleton, List.range_succ, List.filter_append]
  congr 1
  · apply List.filter_congr
    intro j inside
    have inside : j < ms.length := List.mem_range.1 inside
    rw [List.getElem?_append_left inside, List.take_append_of_le_length (Nat.le_of_lt inside)]
  · rw [List.filter_singleton, List.getElem?_concat_length, List.take_left, Option.any_some,
      Bool.cond_eq_ite]

theorem turns_prefix_append (g : Group) (ms ms' : List Message) :
    g.turns ms <+: g.turns (ms ++ ms') := by
  induction ms' using List.reverseRecOn with
  | nil => rw [List.append_nil]
  | append_singleton rest m ih =>
      rw [← List.append_assoc, turns_concat]
      exact ih.trans (List.prefix_append _ _)

theorem mem_turns_iff {ms : List Message} {j : Nat} (there : ms[j]? = some m) :
    j ∈ g.turns ms ↔ g.takesTurn (ms.take j) m = true := by
  unfold turns
  rw [List.mem_filter, List.mem_range, there, Option.any_some,
    and_iff_right (List.getElem?_eq_some_iff.1 there).1]

theorem routes_append (g : Group) (ms ms' : List Message) :
    g.routes (ms ++ ms') = g.routes ms ++ (ms.foldl dispatch g).routes ms' := by
  induction ms generalizing g with
  | nil => rfl
  | cons first rest ih => exact congrArg ((g.pick first.key).1 :: ·) (ih _)

theorem length_routes (g : Group) (ms : List Message) : (g.routes ms).length = ms.length := by
  induction ms generalizing g with
  | nil => rfl
  | cons first rest ih => exact congrArg Nat.succ (ih _)

theorem arrivals_concat {ms : List Message} {places : List Nat}
    (same : places.length = ms.length) (m : Message) (here place : Nat) :
    arrivals (ms ++ [m]) (places ++ [here]) place =
      arrivals ms places place ++ if here = place then [m] else [] := by
  unfold arrivals
  rw [List.zip_append same.symm, List.filter_append, List.map_append]
  by_cases hit : here = place <;> simp [hit]

/-- Whoever takes a turn now is dealt in rotation. -/
theorem pick_of_takesTurn (turn : g.takesTurn [] m = true) :
    (g.pick m.key).1 = g.rotate.1 ∧ (g.pick m.key).2.cursor = Word.wrap (g.cursor + 1) := by
  cases mode : g.mode with
  | shared =>
      rw [pick_shared mode]
      exact ⟨rfl, rfl⟩
  | keyShared =>
      cases keyed : m.key with
      | none =>
          rw [pick_unkeyed]
          exact ⟨rfl, rfl⟩
      | some key =>
          have unowned : g.ownerIndex? key = none := by
            simpa [takesTurn, mode, keyed] using turn
          rw [pick_unowned mode unowned, claim_eq]
          exact ⟨rfl, rfl⟩

/-- All others have a key that belongs to somebody. -/
theorem exists_of_not_takesTurn (aside : g.takesTurn [] m = false) :
    ∃ key index, g.mode = .keyShared ∧ m.key = some key ∧ g.ownerIndex? key = some index := by
  cases mode : g.mode with
  | shared => simp [takesTurn, mode] at aside
  | keyShared =>
      cases keyed : m.key with
      | none => simp [takesTurn, mode, keyed] at aside
      | some key =>
          simp only [takesTurn, mode, keyed, List.all_nil, Bool.and_true,
            Option.isNone_eq_false_iff] at aside
          obtain ⟨index, owned⟩ := Option.isSome_iff_exists.1 aside
          exact ⟨key, index, rfl, rfl, owned⟩

theorem ownerIndex?_rotate (g : Group) (key : String) :
    g.rotate.2.ownerIndex? key = g.ownerIndex? key := rfl

/-- Picking somebody for a message gives its key an owner, and takes no key from anybody. -/
theorem isNone_ownerIndex?_pick (keyShared : g.mode = .keyShared) (attached : g.consumers ≠ [])
    (m : Message) (key : String) :
    ((g.pick m.key).2.ownerIndex? key).isNone =
      ((g.ownerIndex? key).isNone && m.key != some key) := by
  cases keyed : m.key with
  | none =>
      rw [pick_unkeyed, ownerIndex?_rotate]
      simp
  | some name =>
      cases owned : g.ownerIndex? name with
      | some index =>
          rw [pick_owned keyShared owned]
          by_cases same : name = key
          · subst same
            simp [owned]
          · simp [same]
      | none =>
          have inside : g.rotate.1 < g.rotate.2.consumers.length := rotate_fst_lt attached
          rw [pick_unowned keyShared owned]
          by_cases same : name = key
          · subst same
            have claimed : ((g.rotate.2.claim name g.rotate.1).ownerIndex? name).isSome :=
              ownerIndex?_claim_self (List.getElem?_eq_getElem inside)
            rw [Option.isNone_eq_false_iff.2 claimed]
            simp
          · rw [ownerIndex?_claim_of_ne (Ne.symm same), ownerIndex?_rotate]
            simp [same]

/-! ## What has been dealt so far -/

/-- What has become of a group once some messages have been dealt. -/
structure Dealing (g : Group) (ms : List Message) (h : Group) : Prop where
  mode : h.mode = g.mode
  length : h.consumers.length = g.consumers.length
  consumer : ∀ i : Nat, h.consumers[i]? = g.consumers[i]?.map fun c =>
    { c with inbox := c.inbox ++ arrivals ms (g.routes ms) i }
  /-- Every turn moves the cursor by one, and nothing else does. -/
  cursor : h.cursor = g.cursor + (g.turns ms).length
  rotation : ∀ t j : Nat, (g.turns ms)[t]? = some j →
    (g.routes ms)[j]? = some ((g.cursor + t) % g.consumers.length)
  unowned : g.mode = .keyShared → ∀ key, (h.ownerIndex? key).isNone =
    ((g.ownerIndex? key).isNone && ms.all fun e => e.key != some key)

theorem dealing_nil (g : Group) : g.Dealing [] g where
  mode := rfl
  length := rfl
  consumer := by simp [arrivals]
  cursor := rfl
  rotation := fun _ _ there => nomatch there
  unowned := by simp

variable {ms : List Message}

/-- Whether a message takes a turn can be told in advance. -/
theorem Dealing.takesTurn_eq (dealing : g.Dealing ms h) (m : Message) :
    h.takesTurn [] m = g.takesTurn ms m := by
  unfold takesTurn
  rw [dealing.mode]
  cases mode : g.mode with
  | shared => rfl
  | keyShared =>
      cases keyed : m.key with
      | none => rfl
      | some key => simp [dealing.unowned mode]

theorem Dealing.listening (dealing : g.Dealing ms h)
    (listening : ∀ c ∈ g.consumers, c.listening = true) {c : Consumer} (member : c ∈ h.consumers) :
    c.listening = true := by
  obtain ⟨i, there⟩ := List.mem_iff_getElem?.1 member
  rw [dealing.consumer, Option.map_eq_some_iff] at there
  obtain ⟨d, there, rfl⟩ := there
  exact listening d (List.mem_of_getElem? there)

/-- The next message takes the next turn, or none. -/
theorem Dealing.turn (dealing : g.Dealing ms h) (m : Message)
    (room : g.cursor + (g.turns (ms ++ [m])).length < Word.limit) :
    (h.pick m.key).2.cursor = g.cursor + (g.turns (ms ++ [m])).length ∧
      (g.takesTurn ms m = true →
        (h.pick m.key).1 = (g.cursor + (g.turns ms).length) % g.consumers.length) := by
  rw [turns_concat] at room ⊢
  rw [← dealing.takesTurn_eq] at room ⊢
  cases turn : h.takesTurn [] m with
  | true =>
      obtain ⟨place, cursor⟩ := pick_of_takesTurn turn
      rw [turn, if_pos rfl, List.length_append, List.length_singleton, ← Nat.add_assoc] at room
      rw [if_pos rfl, List.length_append, List.length_singleton, cursor, place, rotate_fst,
        dealing.cursor, dealing.length, Word.wrap_of_lt room]
      exact ⟨Nat.add_assoc _ _ _, fun _ => rfl⟩
  | false =>
      obtain ⟨key, index, keyShared, keyed, owned⟩ := exists_of_not_takesTurn turn
      rw [keyed, pick_owned keyShared owned, if_neg Bool.false_ne_true, List.append_nil]
      exact ⟨dealing.cursor, fun impossible => nomatch impossible⟩

/-- One message more. -/
theorem Dealing.dispatch (dealing : g.Dealing ms (ms.foldl Group.dispatch g))
    (attached : g.consumers ≠ []) (listening : ∀ c ∈ g.consumers, c.listening = true)
    (m : Message) (room : g.cursor + (g.turns (ms ++ [m])).length < Word.limit) :
    g.Dealing (ms ++ [m]) ((ms ++ [m]).foldl Group.dispatch g) := by
  have routes : g.routes (ms ++ [m]) =
      g.routes ms ++ [((ms.foldl Group.dispatch g).pick m.key).1] := g.routes_append ms [m]
  have size := g.length_routes ms
  rw [List.foldl_concat]
  generalize ms.foldl Group.dispatch g = h at dealing routes
  have attached' : h.consumers ≠ [] := by
    rw [← List.length_pos_iff, dealing.length]
    exact List.length_pos_iff.2 attached
  obtain ⟨c, there⟩ := pick_attached attached' m.key
  obtain ⟨cursor, place⟩ := dealing.turn m room
  rw [dispatch_of_listening there (dealing.listening listening (List.mem_of_getElem? there))]
  refine ⟨(pick_mode h m.key).trans dealing.mode, ?_, ?_, cursor, ?_, ?_⟩
  · rw [enqueue, List.length_modify, pick_consumers, dealing.length]
  · intro i
    rw [enqueue, List.getElem?_modify, pick_consumers, dealing.consumer, routes,
      arrivals_concat size]
    by_cases here : (h.pick m.key).1 = i
    · simp [here, Function.comp_def]
    · simp [here]
  · intro t j turn
    rw [turns_concat] at turn
    rw [routes]
    cases takes : g.takesTurn ms m with
    | false =>
        rw [takes, if_neg Bool.false_ne_true, List.append_nil] at turn
        have old := dealing.rotation t j turn
        rwa [List.getElem?_append_left (List.getElem?_eq_some_iff.1 old).1]
    | true =>
        rw [takes, if_pos rfl] at turn
        rcases getElem?_concat_cases turn with before | ⟨rfl, rfl⟩
        · have old := dealing.rotation t j before
          rwa [List.getElem?_append_left (List.getElem?_eq_some_iff.1 old).1]
        · rw [← size, List.getElem?_concat_length, place takes]
  · intro keyShared key
    have ids : ((h.pick m.key).2.enqueue (h.pick m.key).1 m).consumers.map Consumer.id =
        (h.pick m.key).2.consumers.map Consumer.id := enqueue_map _ _ _ fun _ _ => rfl
    have owners : ((h.pick m.key).2.enqueue (h.pick m.key).1 m).owners =
        (h.pick m.key).2.owners := rfl
    rw [ownerIndex?_congr owners ids,
      isNone_ownerIndex?_pick (dealing.mode.trans keyShared) attached', dealing.unowned keyShared,
      List.all_append, Bool.and_assoc]
    simp

/-- Any number of them, as long as the cursor does not run over. -/
theorem dealing_foldl (attached : g.consumers ≠ [])
    (listening : ∀ c ∈ g.consumers, c.listening = true)
    (room : g.cursor + (g.turns ms).length < Word.limit) :
    g.Dealing ms (ms.foldl Group.dispatch g) := by
  induction ms using List.reverseRecOn with
  | nil => exact dealing_nil g
  | append_singleton rest m ih =>
      have fewer : g.cursor + (g.turns rest).length < Word.limit := by
        rw [turns_concat, List.length_append] at room
        omega
      exact (ih fewer).dispatch attached listening m room

/-! ## Round and round -/

/-- The places of all turns, one after the other. -/
theorem Dealing.places (dealing : g.Dealing ms h) :
    (g.turns ms).map (fun j => (g.routes ms)[j]?) =
      (List.range (g.turns ms).length).map fun t =>
        some ((g.cursor + t) % g.consumers.length) := by
  apply List.ext_getElem (by simp)
  intro t inside _
  have turn := List.getElem?_eq_getElem ((List.length_map _ ▸ inside) : t < (g.turns ms).length)
  rw [List.getElem_map, List.getElem_map, List.getElem_range, dealing.rotation t _ turn]

/-- Turns that are fewer than one round apart have different places. -/
theorem eq_of_place_eq {t t' cursor count : Nat} (close : t < t' + count) (close' : t' < t + count)
    (same : (cursor + t) % count = (cursor + t') % count) : t = t' := by
  have turned : t ≡ t' [MOD count] := Nat.ModEq.add_left_cancel' cursor same
  apply turned.eq_of_abs_lt
  rw [abs_lt]
  omega

theorem Dealing.nodup_window (dealing : g.Dealing ms h) (start : Nat) :
    ((((g.turns ms).drop start).take g.consumers.length).map fun j =>
      (g.routes ms)[j]?).Nodup := by
  rw [List.take_drop, List.map_drop, List.map_take, dealing.places, ← List.map_take,
    ← List.map_drop, List.take_range, List.range_eq_range', List.drop_range']
  apply List.Nodup.map_on ?_ (List.nodup_range' _)
  intro t member t' member' same
  rw [List.mem_range'_1] at member member'
  exact eq_of_place_eq (by omega) (by omega) (Option.some.inj same)

/-- How many turns a place gets. -/
theorem Dealing.countP_turns (dealing : g.Dealing ms h) {i : Nat} (inside : i < g.consumers.length) :
    (g.turns ms).countP (fun j => (g.routes ms)[j]? == some i) =
      Nat.count (fun t => g.cursor + t ≡ i [MOD g.consumers.length]) (g.turns ms).length := by
  have mapped : (g.turns ms).countP (fun j => (g.routes ms)[j]? == some i) =
      ((g.turns ms).map fun j => (g.routes ms)[j]?).countP fun place => place == some i := by
    rw [List.countP_map]
    rfl
  rw [mapped, dealing.places, List.countP_map, Nat.count]
  apply List.countP_congr
  intro t _
  simp [Nat.ModEq, Nat.mod_eq_of_lt inside]

/-- No place gets two turns more than another. -/
theorem Dealing.balanced (dealing : g.Dealing ms h) {i k : Nat} (here : i < g.consumers.length)
    (there : k < g.consumers.length) :
    (g.turns ms).countP (fun j => (g.routes ms)[j]? == some i) ≤
      (g.turns ms).countP (fun j => (g.routes ms)[j]? == some k) + 1 := by
  rw [dealing.countP_turns here, dealing.countP_turns there]
  generalize (g.turns ms).length = total
  -- What is counted up to the last turn, without what lies before the first.
  have whole (place : Nat) := Nat.count_add (· ≡ place [MOD g.consumers.length]) g.cursor total
  have here' := whole i
  have there' := whole k
  have somebody : 0 < g.consumers.length := Nat.zero_lt_of_lt here
  simp only [Nat.count_modEq_card _ somebody, Nat.mod_eq_of_lt here, Nat.mod_eq_of_lt there]
    at here' there'
  grind

/-- A message that takes no turn goes to the owner of its key and leaves the cursor alone. -/
theorem goes_to_owner (attached : g.consumers ≠ [])
    (listening : ∀ c ∈ g.consumers, c.listening = true)
    (room : g.cursor + (g.turns ms).length < Word.limit) {j : Nat} (there : ms[j]? = some m)
    (aside : j ∉ g.turns ms) :
    ∃ key index, g.mode = .keyShared ∧ m.key = some key ∧
      ((ms.take j).foldl Group.dispatch g).ownerIndex? key = some index ∧
      (g.routes ms)[j]? = some index ∧
      ((ms.take (j + 1)).foldl Group.dispatch g).cursor =
        ((ms.take j).foldl Group.dispatch g).cursor := by
  obtain ⟨inside, here⟩ := List.getElem?_eq_some_iff.1 there
  have split : ms = ms.take j ++ m :: ms.drop (j + 1) := by
    rw [← here, List.cons_getElem_drop_succ, List.take_append_drop]
  have taken : ms.take (j + 1) = ms.take j ++ [m] := by
    rw [← here, List.take_append_getElem]
  have fewer : g.cursor + (g.turns (ms.take j)).length < Word.limit := by
    have shorter := (g.turns_prefix_append (ms.take j) (m :: ms.drop (j + 1))).length_le
    rw [← split] at shorter
    omega
  have routes := g.routes_append (ms.take j) (m :: ms.drop (j + 1))
  rw [← split] at routes
  have size := g.length_routes (ms.take j)
  have dealing := dealing_foldl attached listening fewer
  rw [mem_turns_iff there, ← dealing.takesTurn_eq, Bool.not_eq_true] at aside
  rw [taken, List.foldl_concat, routes]
  generalize (ms.take j).foldl Group.dispatch g = h at dealing aside ⊢
  obtain ⟨key, index, keyShared, keyed, owned⟩ := exists_of_not_takesTurn aside
  have picked : h.pick m.key = (index, h) := by rw [keyed, pick_owned keyShared owned]
  obtain ⟨c, found, -⟩ := ownerIndex?_eq_some owned
  refine ⟨key, index, dealing.mode ▸ keyShared, keyed, owned, ?_, ?_⟩
  · rw [List.length_take, Nat.min_eq_left (Nat.le_of_lt inside)] at size
    rw [List.getElem?_append_right (Nat.le_of_eq size), size, Nat.sub_self]
    show some (h.pick m.key).1 = _
    rw [picked]
  · have hears := dealing.listening listening (List.mem_of_getElem? found)
    rw [dispatch_of_listening (c := c) (by rw [picked]; exact found) hears, picked]
    rfl

/-- **The rotation is balanced.** Let some messages be dealt to a group, all of whose consumers
listen, and let the cursor not run over. Every message arrives at one place, and every consumer gets
what arrives at its own. The places of the messages that take turns go round from where the cursor
is, so that any of them that follow each other, as many as there are consumers, go to different
ones, and no consumer gets two more of them than another. Every other message has a key with an
owner, to whom it goes, and does not move the cursor. -/
theorem rotation_is_balanced (g : Group) (ms : List Message) (attached : g.consumers ≠ [])
    (listening : ∀ c ∈ g.consumers, c.listening = true)
    (room : g.cursor + (g.turns ms).length < Word.limit) :
    let n := g.consumers.length
    let places := g.routes ms
    let turns := g.turns ms
    (places.length = ms.length ∧
      ∀ i : Nat, (ms.foldl Group.dispatch g).consumers[i]? = g.consumers[i]?.map fun c =>
        { c with inbox := c.inbox ++ arrivals ms places i }) ∧
      (turns.map fun j => places[j]?) =
        ((List.range turns.length).map fun t => some ((g.cursor + t) % n)) ∧
      (∀ start : Nat, (((turns.drop start).take n).map fun j => places[j]?).Nodup) ∧
      (∀ i k : Nat, i < n → k < n → turns.countP (fun j => places[j]? == some i) ≤
        turns.countP (fun j => places[j]? == some k) + 1) ∧
      (ms.foldl Group.dispatch g).cursor = g.cursor + turns.length ∧
      ∀ (j : Nat) (m : Message), ms[j]? = some m → j ∉ turns →
        ∃ key index, g.mode = .keyShared ∧ m.key = some key ∧
          ((ms.take j).foldl Group.dispatch g).ownerIndex? key = some index ∧
          places[j]? = some index ∧
          ((ms.take (j + 1)).foldl Group.dispatch g).cursor =
            ((ms.take j).foldl Group.dispatch g).cursor := by
  intro n places turns
  have dealing := dealing_foldl attached listening room
  refine ⟨⟨g.length_routes ms, dealing.consumer⟩, dealing.places, dealing.nodup_window,
    fun i k => dealing.balanced, dealing.cursor, ?_⟩
  intro j m there aside
  exact goes_to_owner attached listening room there aside

/-- Three consumers, the second of whom owns a key, and a rotation that starts with the third. -/
theorem rotation_of_six_messages :
    let note := fun n key => (⟨.ofNat n, "note", key⟩ : Message)
    let g : Group := { mode := .keyShared, cursor := 5, owners := [("us", 1)], consumers := [
      { id := 0, queue := 0, mode := .keyShared }, { id := 1, queue := 1, mode := .keyShared },
      { id := 2, queue := 2, mode := .keyShared }] }
    let ms := [note 0 none, note 1 (some "us"), note 2 (some "eu"), note 3 none,
      note 4 (some "eu"), note 5 none]
    g.consumers ≠ [] ∧ (∀ c ∈ g.consumers, c.listening = true) ∧ g.turns ms = [0, 2, 3, 5] ∧
      g.cursor + (g.turns ms).length < Word.limit ∧
      ((g.turns ms).map fun j => (g.routes ms)[j]?) = [some 2, some 0, some 1, some 2] ∧
      (ms.foldl Group.dispatch g).cursor = 9 ∧ (g.routes ms)[1]? = some 1 := by
  intro note g ms
  have attached : g.consumers ≠ [] := by decide
  have listening : ∀ c ∈ g.consumers, c.listening = true := by decide
  have turns : g.turns ms = [0, 2, 3, 5] := by decide
  have room : g.cursor + (g.turns ms).length < Word.limit := by rw [turns]; decide
  obtain ⟨-, places, -, -, cursor, aside⟩ := rotation_is_balanced g ms attached listening room
  obtain ⟨key, index, -, keyed, owned, place, -⟩ :=
    aside 1 (note 1 (some "us")) rfl (by rw [turns]; decide)
  cases keyed
  have owner : ((ms.take 1).foldl Group.dispatch g).ownerIndex? "us" = some 1 := by decide
  rw [owner] at owned
  cases owned
  rw [turns] at places cursor
  exact ⟨attached, listening, turns, room, by rw [turns]; exact places.trans (by decide),
    cursor, place⟩

end Group

end DeliveryBench
