import DeliveryBench.Proofs.Broker.Soundness
import Mathlib.Logic.Function.Basic

/-!
# Numbers only tell consumers apart

A group asks of the numbers of its consumers nothing but whether two of them are the same. So if
all numbers are exchanged for others, different ones for different ones (`Group.renumber` by an
injective function), then every operation does to the renumbered group what it does to the group:
the same place is picked (`pick_renumber`), a message that is dealt ends on the same queue
(`dispatch_renumber`), a poll has the same answer (`receive_renumber`), and so on.

Caveat: the group must be told of the new number where it is told of a number at all, that is, when
a consumer attaches and when one is detached.
-/

namespace DeliveryBench

/-- The same consumer under another number. -/
def Consumer.renumber (ρ : ConsumerId → ConsumerId) (c : Consumer) : Consumer :=
  { c with id := ρ c.id }

@[simp] theorem Consumer.renumber_inbox (ρ : ConsumerId → ConsumerId) (c : Consumer) :
    (c.renumber ρ).inbox = c.inbox := rfl

namespace Group

/-- The same group with other numbers. -/
def renumber (ρ : ConsumerId → ConsumerId) (g : Group) : Group :=
  { g with
    consumers := g.consumers.map (Consumer.renumber ρ)
    departed := g.departed.map (Consumer.renumber ρ)
    owners := g.owners.map fun entry => (entry.1, ρ entry.2) }

variable {ρ : ConsumerId → ConsumerId} {g : Group}

@[simp] theorem renumber_consumers (ρ : ConsumerId → ConsumerId) (g : Group) :
    (g.renumber ρ).consumers = g.consumers.map (Consumer.renumber ρ) := rfl

@[simp] theorem renumber_mode (ρ : ConsumerId → ConsumerId) (g : Group) :
    (g.renumber ρ).mode = g.mode := rfl

@[simp] theorem renumber_backlog (ρ : ConsumerId → ConsumerId) (g : Group) :
    (g.renumber ρ).backlog = g.backlog := rfl

theorem renumber_members (ρ : ConsumerId → ConsumerId) (g : Group) :
    (g.renumber ρ).members = g.members.map (Consumer.renumber ρ) :=
  List.map_append.symm

theorem renumber_population (ρ : ConsumerId → ConsumerId) (g : Group) :
    (g.renumber ρ).population = g.population := by
  rw [population, renumber_members, List.length_map, population]

/-- Only the numbers that occur matter. -/
theorem renumber_congr {ρ' : ConsumerId → ConsumerId} (members : ∀ c ∈ g.members, ρ' c.id = ρ c.id)
    (owners : ∀ entry ∈ g.owners, ρ' entry.2 = ρ entry.2) : g.renumber ρ' = g.renumber ρ := by
  have same (c : Consumer) (member : c ∈ g.members) : c.renumber ρ' = c.renumber ρ := by
    rw [Consumer.renumber, members c member]
    rfl
  unfold renumber
  congr 1
  · exact List.map_congr_left fun c attached => same c (List.mem_append_left _ attached)
  · exact List.map_congr_left fun c gone => same c (List.mem_append_right _ gone)
  · exact List.map_congr_left fun entry member => by rw [owners entry member]

/-! ## Picking -/

/-- The owner of a key is found at the same place. -/
theorem ownerIndex?_renumber (inj : Function.Injective ρ) (g : Group) (key : String) :
    (g.renumber ρ).ownerIndex? key = g.ownerIndex? key := by
  have renumbered : (g.renumber ρ).owners.lookup key = (g.owners.lookup key).map ρ :=
    lookup_map fun _ => rfl
  unfold ownerIndex?
  rw [renumbered]
  unfold renumber
  cases g.owners.lookup key with
  | none => rfl
  | some owner =>
      have same : (fun c : Consumer => c.id == ρ owner) ∘ Consumer.renumber ρ =
          fun c => c.id == owner := by
        funext c
        exact inj.beq_eq
      simp only [Option.map_some, Option.bind_some, List.findIdx?_map, same]

theorem rotate_renumber (ρ : ConsumerId → ConsumerId) (g : Group) :
    (g.renumber ρ).rotate = (g.rotate.1, g.rotate.2.renumber ρ) := by
  unfold rotate renumber
  rw [List.length_map]

theorem claim_renumber (ρ : ConsumerId → ConsumerId) (g : Group) (key : String) (index : Nat) :
    (g.renumber ρ).claim key index = (g.claim key index).renumber ρ := by
  unfold claim
  rw [renumber_consumers, List.getElem?_map]
  cases g.consumers[index]? with
  | none => rfl
  | some c =>
      simp only [Option.map_some, renumber, List.map_cons, List.filter_map]
      rfl

/-- The same place is picked. -/
theorem pick_renumber (inj : Function.Injective ρ) (g : Group) (key : Option String) :
    (g.renumber ρ).pick key = ((g.pick key).1, (g.pick key).2.renumber ρ) := by
  unfold pick
  rw [renumber_mode]
  split
  · rename_i k _
    rw [ownerIndex?_renumber inj]
    cases g.ownerIndex? k with
    | some index => rfl
    | none => simp only [rotate_renumber, claim_renumber]
  · exact rotate_renumber ρ g

/-! ## Dealing -/

theorem detach_renumber (inj : Function.Injective ρ) (g : Group) (id : ConsumerId) :
    (g.renumber ρ).detach (ρ id) = (g.detach id).renumber ρ := by
  have stays : (fun c : Consumer => c.id != ρ id) ∘ Consumer.renumber ρ = fun c => c.id != id := by
    funext c
    exact congrArg not inj.beq_eq
  have goes : (fun c : Consumer => c.id == ρ id) ∘ Consumer.renumber ρ = fun c => c.id == id := by
    funext c
    exact inj.beq_eq
  have keeps : (fun entry : String × ConsumerId => entry.2 != ρ id) ∘
      (fun entry : String × ConsumerId => (entry.1, ρ entry.2)) = fun entry => entry.2 != id := by
    funext entry
    exact congrArg not inj.beq_eq
  simp only [detach, renumber, List.filter_map, List.map_append, stays, goes, keeps]

theorem enqueue_renumber (ρ : ConsumerId → ConsumerId) (g : Group) (index : Nat) (m : Message) :
    (g.renumber ρ).enqueue index m = (g.enqueue index m).renumber ρ := by
  have same : (g.consumers.map (Consumer.renumber ρ)).modify index
      (fun c => { c with inbox := c.inbox ++ [m] }) =
        (g.consumers.modify index fun c => { c with inbox := c.inbox ++ [m] }).map
          (Consumer.renumber ρ) := by
    apply List.ext_getElem?
    intro i
    simp only [List.getElem?_modify, List.getElem?_map]
    cases g.consumers[i]? with
    | none => rfl
    | some c =>
        simp only [Option.map_some]
        split <;> rfl
  simp only [enqueue, renumber, same]

theorem picked_renumber (inj : Function.Injective ρ) {key : Option String} {c : Consumer}
    (there : g.consumers[(g.pick key).1]? = some c) :
    (g.renumber ρ).consumers[((g.renumber ρ).pick key).1]? = some (c.renumber ρ) := by
  rw [pick_renumber inj, renumber_consumers, List.getElem?_map, there, Option.map_some]

/-- A message that is dealt ends in the same place. -/
theorem dispatch_renumber (inj : Function.Injective ρ) (g : Group) (m : Message) :
    (g.renumber ρ).dispatch m = (g.dispatch m).renumber ρ := by
  refine dispatch_induction
    (motive := fun g h => (g.renumber ρ).dispatch m = h.renumber ρ) ?_ ?_ ?_ g
  · intro g deserted
    exact dispatch_of_deserted m (by rw [renumber_consumers, deserted, List.map_nil])
  · intro g c there listening
    rw [dispatch_of_listening (picked_renumber inj there) listening, pick_renumber inj,
      enqueue_renumber]
  · intro g c there gone ih
    have number : (c.renumber ρ).id = ρ c.id := rfl
    rw [dispatch_of_gone (picked_renumber inj there) gone, pick_renumber inj, number,
      detach_renumber inj, ih]

/-! ## Coming and going -/

theorem refuses_renumber (ρ : ConsumerId → ConsumerId) (g : Group) (mode : Mode) :
    (g.renumber ρ).refuses mode = g.refuses mode := by
  unfold refuses renumber
  rw [List.isEmpty_map]

theorem switchTo_renumber (ρ : ConsumerId → ConsumerId) (g : Group) (mode : Mode) :
    (g.renumber ρ).switchTo mode = (g.switchTo mode).renumber ρ := by
  unfold switchTo
  rw [renumber_mode]
  split <;> rfl

theorem attach_renumber (inj : Function.Injective ρ) (g : Group) (c : Consumer) :
    (g.renumber ρ).attach (c.renumber ρ) = (g.attach c).renumber ρ := by
  have joined : ({ g.renumber ρ with
        consumers := (g.renumber ρ).consumers ++ [c.renumber ρ], backlog := [] } : Group) =
      renumber ρ { g with consumers := g.consumers ++ [c], backlog := [] } := by
    simp only [renumber, List.map_append, List.map_cons, List.map_nil]
  unfold attach
  rw [joined, renumber_backlog]
  generalize ({ g with consumers := g.consumers ++ [c], backlog := [] } : Group) = next
  induction g.backlog generalizing next with
  | nil => rfl
  | cons m rest ih => rw [List.foldl_cons, List.foldl_cons, dispatch_renumber inj, ih]

/-! ## One consumer -/

theorem consumer?_renumber (ρ : ConsumerId → ConsumerId) (g : Group) (queue : Nat) :
    (g.renumber ρ).consumer? queue = (g.consumer? queue).map (Consumer.renumber ρ) := by
  unfold consumer?
  rw [renumber_members, List.find?_map]
  rfl

theorem adjust_renumber (ρ : ConsumerId → ConsumerId) (g : Group) (queue : Nat)
    {f : Consumer → Consumer} (same : ∀ c, f (c.renumber ρ) = (f c).renumber ρ) :
    (g.renumber ρ).adjust queue f = (g.adjust queue f).renumber ρ := by
  have changed (consumers : List Consumer) :
      (consumers.map (Consumer.renumber ρ)).map (fun c => if c.queue = queue then f c else c) =
        (consumers.map fun c => if c.queue = queue then f c else c).map (Consumer.renumber ρ) := by
    rw [List.map_map, List.map_map]
    apply List.map_congr_left
    intro c _
    have bears : (c.renumber ρ).queue = queue ↔ c.queue = queue := Iff.rfl
    by_cases here : c.queue = queue
    · rw [Function.comp_apply, Function.comp_apply, if_pos here, if_pos (bears.2 here), same]
    · rw [Function.comp_apply, Function.comp_apply, if_neg here, if_neg (mt bears.1 here)]
  simp only [adjust, renumber, changed]

/-- A poll has the same answer. -/
theorem receive_renumber (ρ : ConsumerId → ConsumerId) (g : Group) (queue : Nat) :
    (g.renumber ρ).receive queue = ((g.receive queue).1, (g.receive queue).2.renumber ρ) := by
  unfold receive
  rw [consumer?_renumber]
  cases g.consumer? queue with
  | none => rfl
  | some c =>
      have attached : (g.renumber ρ).isAttached queue = g.isAttached queue := by
        unfold isAttached renumber
        rw [List.any_map]
        rfl
      simp only [Option.map_some, Consumer.renumber_inbox]
      cases c.inbox with
      | nil => simp only [attached]
      | cons m rest =>
          exact congrArg (Reception.message m, ·)
            (adjust_renumber ρ g queue (f := fun c => { c with inbox := rest }) fun _ => rfl)

theorem release_renumber (ρ : ConsumerId → ConsumerId) (g : Group) (queue : Nat) :
    (g.renumber ρ).release queue = (g.release queue).renumber ρ :=
  adjust_renumber ρ g queue (f := fun c => { c with listening := false }) fun _ => rfl

end Group

end DeliveryBench
