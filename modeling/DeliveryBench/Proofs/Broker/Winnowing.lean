import DeliveryBench.Proofs.Broker.Soundness

/-!
# Dealing where some have gone

A consumer that has been dropped stays in the group until it is picked. So the dealing of a message
is a loop: whoever is picked and has gone is taken out, and the message is dealt again.
`Group.Deals` is this loop without a bound on its attempts. It always comes to its end, and that is
`Group.dispatch` (`dispatch_deals`, `Deals.eq_dispatch`), because every further attempt is made
among fewer consumers (`Deals.length_le`).

`Group.Winnowed` says what is left of the group. Those taken out have all gone and take their keys
with them; the others stay in their order, with their queues and their keys; and one of them gets
the message, or it waits, if nobody is left who could take it.

Caveat: a consumer is taken out by its number, and with it all that bear the same. Where numbers
tell consumers apart that is nobody else.
-/

namespace DeliveryBench

namespace Group

variable {g h : Group} {m : Message} {attempts : List Group}

/-! ## Attempt by attempt -/

/-- How a message is dealt: the groups in which somebody is picked, one after the other, and the
group in the end. -/
inductive Deals (m : Message) : Group → List Group → Group → Prop
  | waits {g : Group} : g.consumers = [] → Deals m g [] (g.postpone m)
  | taken {g : Group} {c : Consumer} : g.consumers[(g.pick m.key).1]? = some c →
    c.listening = true → Deals m g [g] ((g.pick m.key).2.enqueue (g.pick m.key).1 m)
  /-- Whoever is picked has gone. -/
  | again {g h : Group} {c : Consumer} {rest : List Group} :
    g.consumers[(g.pick m.key).1]? = some c → c.listening = false →
    Deals m ((g.pick m.key).2.detach c.id) rest h → Deals m g (g :: rest) h

theorem dispatch_deals (g : Group) (m : Message) :
    ∃ attempts, Deals m g attempts (g.dispatch m) := by
  refine dispatch_induction (motive := fun g h => ∃ attempts, Deals m g attempts h) ?_ ?_ ?_ g
  · intro g deserted
    exact ⟨[], .waits deserted⟩
  · intro g c there listening
    exact ⟨[g], .taken there listening⟩
  · intro g c there gone ih
    obtain ⟨rest, deals⟩ := ih
    exact ⟨g :: rest, .again there gone deals⟩

theorem Deals.eq_dispatch (deals : Deals m g attempts h) : h = g.dispatch m := by
  induction deals with
  | waits deserted => rw [dispatch_of_deserted m deserted]
  | taken there listening => rw [dispatch_of_listening there listening]
  | again there gone _ ih => rw [dispatch_of_gone there gone, ih]

/-- There are no more attempts than consumers. -/
theorem Deals.length_le (deals : Deals m g attempts h) :
    attempts.length ≤ g.consumers.length := by
  induction deals with
  | waits => exact Nat.zero_le _
  | taken there => exact Nat.succ_le_of_lt (Nat.zero_lt_of_lt (List.getElem?_eq_some_iff.1 there).1)
  | again there _ _ ih => exact Nat.succ_le_of_lt (Nat.lt_of_le_of_lt ih (length_detach_pick_lt there))

/-- In each of them somebody is picked who is there. -/
theorem Deals.pick_lt (deals : Deals m g attempts h) :
    ∀ a ∈ attempts, (a.pick m.key).1 < a.consumers.length := by
  induction deals with
  | waits => exact fun _ member => nomatch member
  | taken there =>
      intro a member
      obtain rfl := List.mem_singleton.1 member
      exact (List.getElem?_eq_some_iff.1 there).1
  | again there _ _ ih =>
      intro a member
      rcases List.mem_cons.1 member with rfl | later
      · exact (List.getElem?_eq_some_iff.1 there).1
      · exact ih a later

/-! ## Owners as a table -/

/-- Every key has one owner at most. -/
def SoleOwners (g : Group) : Prop :=
  (g.owners.map Prod.fst).Nodup

/-- A list that has lost some of its owners. -/
theorem soleOwners_of_sublist (sole : g.SoleOwners) (fewer : h.owners.Sublist g.owners) :
    h.SoleOwners :=
  sole.sublist (fewer.map Prod.fst)

theorem mem_of_lookup {owners : List (String × ConsumerId)} {key : String} {id : ConsumerId}
    (owner : owners.lookup key = some id) : (key, id) ∈ owners := by
  obtain ⟨before, after, rfl, -⟩ := List.lookup_eq_some_iff.1 owner
  exact List.mem_append_right _ List.mem_cons_self

/-- A name in a table has an entry that is found. -/
theorem exists_lookup_of_mem {owners : List (String × ConsumerId)} {key : String} {id : ConsumerId}
    (member : (key, id) ∈ owners) : ∃ id', owners.lookup key = some id' := by
  have named : key ∈ owners.map Prod.fst := List.mem_map_of_mem member
  cases found : owners.lookup key with
  | some id' => exact ⟨id', rfl⟩
  | none => exact absurd named (lookup_eq_none_iff_not_mem.1 found)

/-- Where every key has one owner at most, it is the one that is found. -/
theorem SoleOwners.mem_iff (sole : g.SoleOwners) {key : String} {id : ConsumerId} :
    (key, id) ∈ g.owners ↔ g.owners.lookup key = some id := by
  refine ⟨?_, mem_of_lookup⟩
  intro member
  obtain ⟨id', owner⟩ := exists_lookup_of_mem member
  have same := List.inj_on_of_nodup_map sole member (mem_of_lookup owner) rfl
  cases same
  exact owner

theorem soleOwners_claim (sole : g.SoleOwners) (key : String) (index : Nat) :
    (g.claim key index).SoleOwners := by
  unfold claim
  split
  · exact sole
  · unfold SoleOwners
    rw [List.map_cons, List.nodup_cons]
    refine ⟨?_, sole.sublist (List.filter_sublist.map Prod.fst)⟩
    intro again
    obtain ⟨entry, member, same⟩ := List.mem_map.1 again
    have other := (List.mem_filter.1 member).2
    simp [same] at other

theorem soleOwners_pick (sole : g.SoleOwners) (key : Option String) :
    (g.pick key).2.SoleOwners := by
  unfold pick
  split
  · split
    · exact sole
    · exact soleOwners_claim (g := g.rotate.2) sole _ _
  · exact sole

theorem soleOwners_detach (sole : g.SoleOwners) (id : ConsumerId) : (g.detach id).SoleOwners :=
  soleOwners_of_sublist sole List.filter_sublist

theorem soleOwners_dispatch (sole : g.SoleOwners) (m : Message) : (g.dispatch m).SoleOwners := by
  revert sole
  refine dispatch_induction (motive := fun g h => g.SoleOwners → h.SoleOwners) ?_ ?_ ?_ g
  · exact fun _ _ sole => sole
  · exact fun _ _ _ _ sole => soleOwners_pick sole m.key
  · exact fun _ c _ _ ih sole => ih (soleOwners_detach (soleOwners_pick sole m.key) c.id)

theorem soleOwners_attach (sole : g.SoleOwners) (c : Consumer) : (g.attach c).SoleOwners := by
  have joined : SoleOwners { g with consumers := g.consumers ++ [c], backlog := [] } := sole
  unfold Group.attach
  generalize { g with consumers := g.consumers ++ [c], backlog := [] } = next at joined
  induction g.backlog generalizing next with
  | nil => exact joined
  | cons m rest ih => exact ih _ (soleOwners_dispatch joined m)

theorem soleOwners_switchTo (sole : g.SoleOwners) (mode : Mode) :
    (g.switchTo mode).SoleOwners := by
  unfold Group.switchTo
  split
  · exact sole
  · exact List.nodup_nil

theorem soleOwners_receive (sole : g.SoleOwners) (queue : Nat) :
    (g.receive queue).2.SoleOwners := by
  rcases receive_cases g queue with ⟨c, m, rest, -, -, result⟩ | ⟨-, same⟩
  · rw [result]
    exact sole
  · rwa [same]

end Group

def Broker.SoleOwnersAt (b : Broker) (address : Address) : Prop :=
  ∀ g, b.group? address = some g → g.SoleOwners

theorem Moment.soleOwnersAt_after {x : Moment} {address : Address}
    (sole : x.before.SoleOwnersAt address) : x.after.SoleOwnersAt address := by
  have effect := x.effect address
  unfold Broker.SoleOwnersAt at sole ⊢
  generalize x.before.group? address = group? at effect sole
  generalize x.after.group? address = next at effect ⊢
  rintro h rfl
  cases effect with
  | untouched => exact sole h rfl
  | @joined _ old mode id _ _ _ oldEq _ =>
      have before : old.SoleOwners := by
        cases group? with
        | none =>
            rw [oldEq]
            exact List.nodup_nil
        | some g =>
            rw [oldEq]
            exact sole g rfl
      exact Group.soleOwners_attach (Group.soleOwners_switchTo before mode) _
  | dealt => exact Group.soleOwners_dispatch (sole _ rfl) _
  | polled => exact Group.soleOwners_receive (sole _ rfl) _
  | left => exact Group.soleOwners_detach (sole _ rfl) _
  | @dropped g => exact (sole g rfl : g.SoleOwners)
  | shut => exact List.nodup_nil

theorem Broker.soleOwnersAt_after (calls : List Call) (address : Address) :
    (Broker.after {} calls).SoleOwnersAt address :=
  after_induction (motive := fun b => b.SoleOwnersAt address) calls nofun
    fun _ => Moment.soleOwnersAt_after

namespace Group

variable {g h : Group} {m : Message}

/-! ## Who stays, and with what -/

/-- What becomes of a group when a message is dealt: `kept` stay, `removed` are taken out, and
`taker` gets the message, unless there is nobody. -/
structure Winnowed (m : Message) (g : Group) (kept removed : List Consumer)
    (taker : Option Consumer) (h : Group) : Prop where
  order : kept.Sublist g.consumers
  all : (kept ++ removed).Perm g.consumers
  gone : ∀ c ∈ removed, c.listening = false
  departed : h.departed = g.departed ++ removed
  mode : h.mode = g.mode
  waits : taker = none → kept = [] ∧ h.consumers = [] ∧ h.backlog = g.backlog ++ [m]
  taken : ∀ c, taker = some c → c.listening = true ∧ h.backlog = g.backlog ∧
    ∃ i, kept[i]? = some c ∧ h.consumers = kept.set i { c with inbox := c.inbox ++ [m] }
  owners : ∀ key id, (key, id) ∈ h.owners ↔
    ((key, id) ∈ g.owners ∧ ∀ c ∈ removed, c.id ≠ id) ∨
      (g.mode = .keyShared ∧ m.key = some key ∧ ∃ c, taker = some c ∧ c.id = id)

/-- A key whose owner has no place belongs to nobody. -/
theorem Sound.not_mem_owners (sound : g.Sound) {key : String} (unowned : g.ownerIndex? key = none)
    (id : ConsumerId) : (key, id) ∉ g.owners := by
  intro member
  obtain ⟨owner, found⟩ := exists_lookup_of_mem member
  obtain ⟨c, attached, rfl⟩ := sound.owners _ (mem_of_lookup found)
  have somewhere := ownerIndex?_isSome found attached
  rw [unowned] at somewhere
  cases somewhere

/-- Picking somebody for a message gives that one the key of the message, and nothing else to
anybody. -/
theorem Sound.mem_pick_owners (sound : g.Sound) {c : Consumer}
    (there : g.consumers[(g.pick m.key).1]? = some c) (key : String) (id : ConsumerId) :
    (key, id) ∈ (g.pick m.key).2.owners ↔
      (key, id) ∈ g.owners ∨ (g.mode = .keyShared ∧ m.key = some key ∧ c.id = id) := by
  cases mode : g.mode with
  | shared =>
      rw [pick_shared mode]
      refine ⟨.inl, ?_⟩
      rintro (old | ⟨impossible, -⟩)
      · exact old
      · cases impossible
  | keyShared =>
      cases keyed : m.key with
      | none =>
          rw [pick_unkeyed]
          refine ⟨.inl, ?_⟩
          rintro (old | ⟨-, impossible, -⟩)
          · exact old
          · cases impossible
      | some name =>
          rw [keyed] at there
          cases owned : g.ownerIndex? name with
          | some index =>
              rw [pick_owned mode owned] at there ⊢
              obtain ⟨d, found, owner⟩ := ownerIndex?_eq_some owned
              obtain rfl : d = c := Option.some.inj (found.symm.trans there)
              refine ⟨.inl, ?_⟩
              rintro (old | ⟨-, same, rfl⟩)
              · exact old
              · cases same
                exact mem_of_lookup owner
          | none =>
              rw [pick_unowned mode owned] at there ⊢
              have found : g.rotate.2.consumers[g.rotate.1]? = some c := there
              have kept : (g.owners.filter fun entry => entry.1 != name) = g.owners := by
                refine List.filter_eq_self.2 fun entry member => bne_iff_ne.2 ?_
                rintro rfl
                exact sound.not_mem_owners owned entry.2 member
              rw [claim_of_getElem? found]
              show (key, id) ∈ (name, c.id) :: g.owners.filter _ ↔ _
              rw [kept, List.mem_cons, Prod.mk.injEq, or_comm, eq_comm (a := key),
                eq_comm (a := id)]
              simp

theorem enqueue_consumers {index : Nat} {c : Consumer} (m : Message)
    (there : g.consumers[index]? = some c) :
    (g.enqueue index m).consumers =
      g.consumers.set index { c with inbox := c.inbox ++ [m] } := by
  unfold enqueue
  rw [List.modify_eq_set_getElem?, there]
  rfl

/-- Where somebody has been taken out first, and then others. -/
theorem Winnowed.of_detach {g' : Group} {kept removed : List Consumer} {taker : Option Consumer}
    {c : Consumer} (sound : g.Sound) (distinct : (g.consumers.map Consumer.id).Nodup)
    (there : g.consumers[(g.pick m.key).1]? = some c) (gone : c.listening = false)
    (next : (g.pick m.key).2.detach c.id = g') (rest : Winnowed m g' kept removed taker h) :
    Winnowed m g kept (g.consumers.filter (fun d => d.id == c.id) ++ removed) taker h := by
  subst next
  have attached : c ∈ g.consumers := List.mem_of_getElem? there
  have stay : ((g.pick m.key).2.detach c.id).consumers =
      g.consumers.filter fun d => d.id != c.id := by
    rw [← pick_consumers g m.key]
    rfl
  have itself : ∀ d ∈ g.consumers.filter (fun d => d.id == c.id), d = c := by
    intro d member
    obtain ⟨present, same⟩ := List.mem_filter.1 member
    exact List.inj_on_of_nodup_map distinct present attached (eq_of_beq same)
  have order := rest.order
  have all := rest.all
  rw [stay] at order all
  refine ⟨order.trans List.filter_sublist, ?_, ?_, ?_, ?_, ?_, ?_, ?_⟩
  · have parts := List.filter_append_perm (fun d : Consumer => d.id == c.id) g.consumers
    refine .trans ?_ parts
    rw [← List.append_assoc]
    refine (List.perm_append_comm.append_right removed).trans ?_
    rw [List.append_assoc]
    exact all.append_left _
  · intro d member
    rcases List.mem_append.1 member with first | later
    · rw [itself d first]
      exact gone
    · exact rest.gone d later
  · rw [rest.departed, ← List.append_assoc]
    simp [detach]
  · rw [rest.mode]
    exact pick_mode g m.key
  · intro nobody
    have waits := rest.waits nobody
    rwa [show ((g.pick m.key).2.detach c.id).backlog = g.backlog from pick_backlog g m.key] at waits
  · intro d takes
    have taken := rest.taken d takes
    rwa [show ((g.pick m.key).2.detach c.id).backlog = g.backlog from pick_backlog g m.key] at taken
  · intro key id
    have mode : ((g.pick m.key).2.detach c.id).mode = g.mode := pick_mode g m.key
    have left : (∀ d ∈ g.consumers.filter (fun d => d.id == c.id), d.id ≠ id) ↔ id ≠ c.id := by
      constructor
      · intro others
        exact (others c (List.mem_filter.2 ⟨attached, beq_self_eq_true _⟩)).symm
      · intro other d member
        rw [itself d member]
        exact other.symm
    -- The key that it has just been given goes with it.
    have stays : (key, id) ∈ ((g.pick m.key).2.detach c.id).owners ↔
        (key, id) ∈ g.owners ∧ id ≠ c.id := by
      show (key, id) ∈ (g.pick m.key).2.owners.filter (fun entry => entry.2 != c.id) ↔ _
      rw [List.mem_filter, sound.mem_pick_owners there, bne_iff_ne]
      constructor
      · rintro ⟨old | ⟨-, -, new⟩, other⟩
        · exact ⟨old, other⟩
        · exact absurd new.symm other
      · rintro ⟨old, other⟩
        exact ⟨.inl old, other⟩
    rw [rest.owners, mode, stays, List.forall_mem_append, left, and_assoc]

/-- Dealing leaves a group that has been winnowed. -/
theorem Sound.exists_winnowed (sound : g.Sound) (distinct : (g.consumers.map Consumer.id).Nodup)
    (m : Message) : ∃ kept removed taker, Winnowed m g kept removed taker (g.dispatch m) := by
  revert sound distinct
  refine dispatch_induction (motive := fun g h => g.Sound → (g.consumers.map Consumer.id).Nodup →
    ∃ kept removed taker, Winnowed m g kept removed taker h) ?_ ?_ ?_ g
  · intro g deserted _ _
    refine ⟨[], [], none, ?_⟩
    constructor <;> simp [postpone, deserted]
  · intro g c there listening sound _
    refine ⟨g.consumers, [], some c, ?_⟩
    have owners := sound.mem_pick_owners there
    constructor
    case taken =>
      rintro _ ⟨⟩
      refine ⟨listening, pick_backlog g m.key, _, there, ?_⟩
      rw [enqueue_consumers m (by rw [pick_consumers]; exact there), pick_consumers]
    all_goals simp [enqueue, owners]
  · intro g c there gone ih sound distinct
    have fewer := (pick_consumers g m.key).symm ▸ distinct
    obtain ⟨kept, removed, taker, rest⟩ := ih ((sound.pick m.key).detach c.id)
      (fewer.sublist (List.filter_sublist.map Consumer.id))
    exact ⟨kept, _, taker, rest.of_detach sound distinct there gone rfl⟩

variable {kept removed : List Consumer} {taker : Option Consumer}

theorem Winnowed.mem_of_taken (winnowed : Winnowed m g kept removed taker h) {c : Consumer}
    (takes : taker = some c) : c ∈ kept := by
  obtain ⟨-, -, i, there, -⟩ := winnowed.taken c takes
  exact List.mem_of_getElem? there

/-- The message waits if and only if nobody listens. -/
theorem Winnowed.taker_eq_none_iff (winnowed : Winnowed m g kept removed taker h) :
    taker = none ↔ ∀ c ∈ g.consumers, c.listening = false := by
  constructor
  · intro nobody c attached
    obtain ⟨deserted, -, -⟩ := winnowed.waits nobody
    have out := winnowed.all.symm.subset attached
    rw [deserted] at out
    exact winnowed.gone c out
  · intro deaf
    cases takes : taker with
    | none => rfl
    | some c =>
        have attached := winnowed.order.subset (winnowed.mem_of_taken takes)
        have listening := (winnowed.taken c takes).1
        rw [deaf c attached] at listening
        cases listening

/-- Nobody who is taken out bears the number of somebody who stays. -/
theorem Winnowed.apart (winnowed : Winnowed m g kept removed taker h)
    (distinct : (g.consumers.map Consumer.id).Nodup) {c d : Consumer} (stays : c ∈ kept)
    (out : d ∈ removed) : d.id ≠ c.id := by
  have all := ((winnowed.all.map Consumer.id).nodup_iff).2 distinct
  rw [List.map_append, List.nodup_append] at all
  exact (all.2.2 _ (List.mem_map_of_mem stays) _ (List.mem_map_of_mem out)).symm

/-- Whoever is taken out owns nothing any more. -/
theorem Winnowed.disowned (winnowed : Winnowed m g kept removed taker h)
    (distinct : (g.consumers.map Consumer.id).Nodup) {c : Consumer} (out : c ∈ removed)
    (key : String) : h.owners.lookup key ≠ some c.id := by
  intro owner
  rcases (winnowed.owners key c.id).1 (mem_of_lookup owner) with
    ⟨-, others⟩ | ⟨-, -, d, takes, same⟩
  · exact others c out rfl
  · exact winnowed.apart distinct (winnowed.mem_of_taken takes) out same.symm

/-- Whoever stays owns what it has owned, and the key of the message if that is dealt to it. -/
theorem Winnowed.owned_iff (winnowed : Winnowed m g kept removed taker h)
    (distinct : (g.consumers.map Consumer.id).Nodup) (sole : g.SoleOwners) (sole' : h.SoleOwners)
    {c : Consumer} (stays : c ∈ kept) (key : String) :
    h.owners.lookup key = some c.id ↔ g.owners.lookup key = some c.id ∨
      (g.mode = .keyShared ∧ m.key = some key ∧ taker = some c) := by
  rw [← sole'.mem_iff, ← sole.mem_iff, winnowed.owners]
  have others : ∀ d ∈ removed, d.id ≠ c.id := fun d out => winnowed.apart distinct stays out
  have takes : (∃ d, taker = some d ∧ d.id = c.id) ↔ taker = some c := by
    constructor
    · rintro ⟨d, takes, same⟩
      have present := winnowed.order.subset (winnowed.mem_of_taken takes)
      rwa [← List.inj_on_of_nodup_map distinct present (winnowed.order.subset stays) same]
    · intro takes
      exact ⟨c, takes, rfl⟩
  rw [takes, and_iff_left others]

/-! ## Any of them dropped -/

/-- A consumer once the holders of some queues have dropped them. -/
def deafened (dropped : List Nat) (c : Consumer) : Consumer :=
  { c with listening := c.listening && !dropped.contains c.queue }

/-- Dropping consumers makes them deaf and changes nothing else. -/
theorem foldl_release_eq (g : Group) (dropped : List Nat) :
    dropped.foldl Group.release g =
      { g with
        consumers := g.consumers.map (deafened dropped)
        departed := g.departed.map (deafened dropped) } := by
  induction dropped generalizing g with
  | nil =>
      have same : deafened [] = id := by
        funext c
        simp [deafened]
      simp [same]
  | cons queue rest ih =>
      have step : (deafened rest ∘ fun c =>
          if c.queue = queue then { c with listening := false } else c) =
          deafened (queue :: rest) := by
        funext c
        by_cases same : c.queue = queue <;> simp [deafened, same]
      rw [List.foldl_cons, ih]
      simp only [release, adjust, List.map_map, step]

end Group

/-- **Those who have gone are passed over.** Take a group that a new broker can be led to with fewer
subscribes than there are words, and let any of its consumers be dropped. A message is dealt in a
number of attempts that is not above the number of consumers, and each of them picks a consumer that
is there. Then those who `removed` lists have been taken out, who had all been dropped, and they own
no key any more; those who `kept` lists are still there, in their order, with what is on their
queues, and with the keys that they owned. One of these, who has not been dropped, has got the
message at the end of its queue, and its key in key-shared mode; only if there is no such consumer,
the message is the last of those that wait. -/
theorem Broker.dealing_passes_over_those_who_have_gone (calls : List Call)
    (few : calls.countP Call.isSubscribe < Word.limit) (address : Address) (g : Group)
    (there : (Broker.after {} calls).group? address = some g) (dropped : List Nat) (m : Message) :
    let d := dropped.foldl Group.release g
    (∃ attempts h, Group.Deals m d attempts h) ∧
      (∀ attempts h, Group.Deals m d attempts h →
        h = d.dispatch m ∧ attempts.length ≤ d.consumers.length ∧
          ∀ a ∈ attempts, (a.pick m.key).1 < a.consumers.length) ∧
      ∃ kept removed taker, Group.Winnowed m d kept removed taker (d.dispatch m) ∧
        (taker = none ↔ ∀ c ∈ d.consumers, c.listening = false) ∧
        (∀ c ∈ removed, ∀ key, (d.dispatch m).owners.lookup key ≠ some c.id) ∧
        ∀ c ∈ kept, ∀ key, (d.dispatch m).owners.lookup key = some c.id ↔
          d.owners.lookup key = some c.id ∨
            (d.mode = .keyShared ∧ m.key = some key ∧ taker = some c) := by
  intro d
  have sound : (Broker.after {} calls).Sound := sound_new.after calls few
  have same : d = _ := Group.foldl_release_eq g dropped
  have owners : d.owners = g.owners := (congrArg Group.owners same :)
  have consumers : d.consumers = g.consumers.map (Group.deafened dropped) :=
    (congrArg Group.consumers same :)
  have sole : d.SoleOwners := by
    rw [Group.SoleOwners, owners]
    exact soleOwnersAt_after calls address g there
  have distinct : (d.consumers.map Consumer.id).Nodup := by
    have all := sound.distinct address
    rw [idsAt, there] at all
    rw [consumers, List.map_map]
    exact all.sublist ((List.sublist_append_left _ _).map Consumer.id)
  have sound : d.Sound := by
    refine (sound.sound address g there).of_badges (congrArg Group.mode same :) owners ?_
    rw [consumers, List.map_map]
    rfl
  obtain ⟨kept, removed, taker, winnowed⟩ := sound.exists_winnowed distinct m
  refine ⟨?_, ?_, kept, removed, taker, winnowed, winnowed.taker_eq_none_iff, ?_, ?_⟩
  · obtain ⟨attempts, deals⟩ := d.dispatch_deals m
    exact ⟨attempts, _, deals⟩
  · exact fun attempts h deals => ⟨deals.eq_dispatch, deals.length_le, deals.pick_lt⟩
  · exact fun c out => winnowed.disowned distinct out
  · exact fun c stays => winnowed.owned_iff distinct sole (Group.soleOwners_dispatch sole m) stays

/-- Of three, the owner of the key and the one whose turn it would be have been dropped. Both are
taken out, and the third gets the message and the key. -/
theorem the_last_one_listening_gets_the_message :
    let here : Address := ⟨"orders", "audit"⟩
    let note := fun n key => (⟨.ofNat n, "note", key⟩ : Message)
    let calls : List Call := .replicate 3 (.subscribe ⟨here, .keyShared⟩) ++
      [.publish "orders" (note 0 (some "eu")), .publish "orders" (note 1 none)]
    calls.countP Call.isSubscribe < Word.limit ∧
      ∃ g, (Broker.after {} calls).group? here = some g ∧ g.owners = [("eu", 0)] ∧
        let d := [0, 1].foldl Group.release g
        let h := d.dispatch (note 2 (some "eu"))
        h.owners = [("eu", 2)] ∧ ∃ kept removed c,
          Group.Winnowed (note 2 (some "eu")) d kept removed (some c) h ∧
          removed.map Consumer.id = [0, 1] := by
  intro here note calls
  have few : calls.countP Call.isSubscribe < Word.limit := by decide
  obtain ⟨g, there, result⟩ : ∃ g, (Broker.after {} calls).group? here = some g ∧
      g = { mode := .keyShared, cursor := 2, owners := [("eu", 0)], consumers := [
        { id := 0, queue := 0, mode := .keyShared, inbox := [note 0 (some "eu")] },
        { id := 1, queue := 1, mode := .keyShared, inbox := [note 1 none] },
        { id := 2, queue := 2, mode := .keyShared }] } := ⟨_, by decide, rfl⟩
  subst result
  refine ⟨few, _, there, rfl, by decide, ?_⟩
  obtain ⟨-, -, kept, removed, taker, winnowed, nobody, -⟩ :=
    Broker.dealing_passes_over_those_who_have_gone calls few here _ there [0, 1]
      (note 2 (some "eu"))
  have departed := winnowed.departed
  cases takes : taker with
  | none => exact absurd (nobody.1 takes) (by decide)
  | some c =>
    subst takes
    refine ⟨kept, removed, c, winnowed, ?_⟩
    rw [show removed = _ from departed.symm]
    decide

end DeliveryBench
