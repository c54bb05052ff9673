import DeliveryBench.Proofs.Journal.Checks
import DeliveryBench.Proofs.Worker.Handle
import DeliveryBench.Worker.Floor

/-!
# Two checks of the payloads

The payloads that a worker may be delivered are looked at twice: by its delivery loop, for which a
payload outside the list is a failure of the delivery (`WorkerSpec.admits`), and afterwards by
the check of a snapshot, which compares the list with everything that the worker has been delivered
(`Snapshot.payloadMismatches`). The second check is the stricter one
(`Floor.payload_checks_agree`): if it finds nothing, the first had nothing to object to.

What ties them together is that every failure in the journal has been put there by a delivery loop,
for a delivery that it has recorded before and on the verdict of its own specification
(`Floor.Sound`). Every event keeps this up.
-/

namespace DeliveryBench

variable {σ : Type}

/-- Only who records something changes the journal. -/
theorem Elsewhere.apply_journal {doing : Elsewhere σ} (world : World σ)
    (silent : doing.recorder? = none) : (doing.apply world).journal = world.journal := by
  cases doing with
  | recorded | failed => cases silent
  | counted id => exact World.countDown_journal world (some id)
  | opened | dealt => rfl

/-- The failure is one of this delivery. -/
def HandlerFailure.IsOf (f : HandlerFailure) (o : Observation) : Prop :=
  o.sequence = f.sequence ∧ o.worker = f.worker ∧ o.id = f.id ∧ o.payload = f.payload

/-- A worker of this specification fails so on some message. -/
def WorkerSpec.FailsWith (spec : WorkerSpec) (f : HandlerFailure) : Prop :=
  spec.name = f.worker ∧ ∃ earlier m, m.id = f.id ∧ m.payload = f.payload ∧
    (spec.react earlier m).verdict.failure? = some f.reason

/-- A delivery that fails although its payload is expected fails because of the handler. -/
theorem WorkerSpec.failure?_of_admits {spec : WorkerSpec} {earlier : Nat} {m : Message}
    {reason : String} (admitted : spec.admits m.payload = true)
    (failed : (spec.react earlier m).verdict.failure? = some reason) :
    ∃ handler, spec.handler = some handler ∧
      (handler spec.name earlier m).verdict.failure? = some reason := by
  unfold react at failed
  rw [if_pos admitted] at failed
  cases given : spec.handler with
  | none =>
      rw [given] at failed
      cases failed
  | some handler =>
      rw [given] at failed
      exact ⟨handler, rfl, failed⟩

/-! ## One loop -/

/-- A loop judges the message in hand as its specification does, and what it is to report as failed
is on record. -/
inductive Loop.Follows (spec : WorkerSpec) (j : Journal) : Phase → Prop
  | idle : Follows spec j .idle
  | handling {m : Message} (earlier : Nat) : Follows spec j (.handling m (spec.react earlier m))
  | observed {m : Message} {sequence : Nat} (earlier : Nat) :
    ⟨spec.name, m.id, m.payload, m.key, sequence⟩ ∈ j.observations →
    Follows spec j (.observed m sequence (spec.react earlier m).verdict)
  | recorded {m : Message} : Follows spec j (.recorded m)
  | ended {ending : Ending} : Follows spec j (.ended ending)

namespace Loop

variable {client : Client σ} {l l' : Loop} {w w' : World σ} {spec : WorkerSpec}
  {j j' : Journal} {phase : Phase}

theorem Follows.later (follows : Follows spec j phase) (grows : j.Grows j') :
    Follows spec j' phase := by
  cases follows with
  | idle => exact .idle
  | handling earlier => exact .handling earlier
  | observed earlier member => exact .observed earlier (grows.mem_observations member)
  | recorded => exact .recorded
  | ended => exact .ended

theorem Move.follows (move : Move client l w l' w')
    (follows : Follows l.spec w.journal l.phase) : Follows l.spec w'.journal l'.phase := by
  cases move with
  | took => exact .handling l.calls
  | observed phase =>
      rw [phase] at follows
      cases follows with
      | handling earlier => exact .observed earlier (Journal.mem_observations_record _ _ _)
  | counted => exact .idle
  | passed | failed => exact .recorded
  | stopped | deserted | broke | collapsed => exact .ended

/-- A loop adds no failure but one of a delivery on record, as its specification has it. -/
theorem Move.failures (move : Move client l w l' w')
    (follows : Follows l.spec w.journal l.phase) {f : HandlerFailure}
    (member : f ∈ w'.journal.handlerFailures) :
    f ∈ w.journal.handlerFailures ∨
      (∃ o ∈ w.journal.observations, f.IsOf o) ∧ l.spec.FailsWith f := by
  cases move with
  | failed phase failed =>
      rcases Journal.mem_handlerFailures_recordFailure_iff.1 member with old | rfl
      · exact .inl old
      · rw [phase] at follows
        cases follows with
        | observed earlier shown =>
            exact .inr ⟨⟨_, shown, rfl, rfl, rfl, rfl⟩, rfl, earlier, _, rfl, rfl, failed⟩
  | counted =>
      rw [World.countDown_journal] at member
      exact .inl member
  | stopped | took | deserted | broke | observed | collapsed | passed => exact .inl member

theorem abort?_eq_some (aborted : l.abort? = some l') :
    l' = { l with phase := .ended .aborted } := by
  unfold abort? at aborted
  split at aborted <;> cases aborted <;> rfl

end Loop

/-! ## All loops -/

namespace Floor

variable {client : Client σ} {f f' f'' : Floor σ} {place : Nat}

/-- Every failure on record is of a delivery on record, and some loop accounts for it. -/
structure Sound (f : Floor σ) : Prop where
  follows : ∀ l ∈ f.loops, Loop.Follows l.spec f.world.journal l.phase
  shown : ∀ x ∈ f.world.journal.handlerFailures, ∃ o ∈ f.world.journal.observations, x.IsOf o
  accounted : ∀ x ∈ f.world.journal.handlerFailures, ∃ l ∈ f.loops, l.spec.FailsWith x

theorem sound_of_new (new : f.world.journal = {}) (empty : f.loops = []) : f.Sound where
  follows := by
    rw [empty]
    exact List.forall_mem_nil _
  shown := by
    rw [new]
    exact List.forall_mem_nil _
  accounted := by
    rw [new]
    exact List.forall_mem_nil _

theorem exists_of_act {deed : Loop → World σ → Option (Loop × World σ)}
    (taken : f.act place deed = some f') :
    ∃ l l' world', f.loops[place]? = some l ∧ deed l f.world = some (l', world') ∧
      f' = ⟨world', f.loops.set place l'⟩ := by
  unfold act at taken
  split at taken
  · cases taken
  · rename_i l there
    obtain ⟨⟨l', world'⟩, done, rfl⟩ := Option.map_eq_some_iff.1 taken
    exact ⟨l, l', world', there, done, rfl⟩

/-- A loop may go on as its specification has it. -/
theorem Sound.set (sound : f.Sound) {l l' : Loop} {world' : World σ}
    (there : f.loops[place]? = some l) (spec : l'.spec = l.spec)
    (grows : f.world.journal.Grows world'.journal)
    (follows : Loop.Follows l.spec world'.journal l'.phase)
    (failures : ∀ x ∈ world'.journal.handlerFailures, x ∈ f.world.journal.handlerFailures ∨
      (∃ o ∈ f.world.journal.observations, x.IsOf o) ∧ l.spec.FailsWith x) :
    Sound ⟨world', f.loops.set place l'⟩ where
  follows := by
    intro k member
    rcases List.mem_or_eq_of_mem_set member with other | rfl
    · exact (sound.follows k other).later grows
    · rwa [spec]
  shown := by
    intro x member
    have old : ∃ o ∈ f.world.journal.observations, x.IsOf o :=
      (failures x member).elim (sound.shown x) And.left
    obtain ⟨o, shown, isOf⟩ := old
    exact ⟨o, grows.mem_observations shown, isOf⟩
  accounted := by
    intro x member
    have old : ∃ k ∈ f.loops, k.spec.FailsWith x :=
      (failures x member).elim (sound.accounted x) fun added =>
        ⟨l, List.mem_of_getElem? there, added.2⟩
    have specs : (f.loops.set place l').map Loop.spec = f.loops.map Loop.spec :=
      map_set_of_same there spec
    obtain ⟨k, member', fails⟩ := old
    have kept : k.spec ∈ (f.loops.set place l').map Loop.spec := by
      rw [specs]
      exact List.mem_map_of_mem member'
    obtain ⟨k', member'', same⟩ := List.mem_map.1 kept
    exact ⟨k', member'', same ▸ fails⟩

theorem Sound.happen (sound : f.Sound) {event : Event σ}
    (taken : f.happen client event = some f') : f'.Sound := by
  unfold Floor.happen at taken
  cases event with
  | join spec ticket =>
      cases taken
      refine ⟨?_, sound.shown, ?_⟩
      · exact List.forall_mem_append.2 ⟨sound.follows, List.forall_mem_singleton.2 .idle⟩
      · intro x member
        obtain ⟨l, there, fails⟩ := sound.accounted x member
        exact ⟨l, List.mem_append_left _ there, fails⟩
  | step place =>
      obtain ⟨l, l', world', there, done, rfl⟩ := exists_of_act taken
      have move := Loop.step_move done
      have follows := sound.follows l (List.mem_of_getElem? there)
      exact sound.set there move.same.1 move.journal_grows (move.follows follows) fun x member =>
        move.failures follows member
  | ask place =>
      obtain ⟨l, l', world', there, done, rfl⟩ := exists_of_act taken
      cases done
      exact sound.set there rfl (.refl _) (sound.follows l (List.mem_of_getElem? there))
        fun _ => .inl
  | abort place =>
      obtain ⟨l, l', world', there, done, rfl⟩ := exists_of_act taken
      obtain ⟨l', aborted, same⟩ := Option.map_eq_some_iff.1 done
      cases same
      obtain rfl := Loop.abort?_eq_some aborted
      exact sound.set there rfl (.refl _) .ended fun _ => .inl
  | others doing =>
      obtain ⟨silent, same⟩ := Option.ite_none_left_eq_some.1 taken
      cases same
      have journal := Elsewhere.apply_journal f.world (Option.not_isSome_iff_eq_none.1 silent)
      constructor <;> rw [journal]
      · exact sound.follows
      · exact sound.shown
      · exact sound.accounted

theorem Leads.sound (leads : Leads client f f') (sound : f.Sound) : f'.Sound := by
  induction leads with
  | here => exact sound
  | on event _ taken ih => exact ih.happen taken

theorem Leads.trans (leads : Leads client f f') (later : Leads client f' f'') :
    Leads client f f'' := by
  induction later with
  | here => exact leads
  | on event _ taken ih => exact .on event ih taken

theorem leads_of_happenAll {events : List (Event σ)} (run : f.happenAll client events = some f') :
    Leads client f f' := by
  induction events generalizing f with
  | nil =>
      cases run
      exact .here
  | cons event rest ih =>
      obtain ⟨next, taken, later⟩ := Option.bind_eq_some_iff.1 run
      have first : Leads client f next := .on event .here taken
      exact first.trans (ih later)

/-- A worker that was delivered just what was expected of it has been sent nothing else. -/
theorem admits_of_no_mismatch {s : Snapshot} {expected : Table (List String)}
    (fine : s.payloadMismatches expected = []) {spec : WorkerSpec}
    (listed : spec.expected = [] ∨ expected.get? spec.name = some spec.expected) {o : Observation}
    (shown : o ∈ s.observations) (own : spec.name = o.worker) : spec.admits o.payload = true := by
  unfold WorkerSpec.admits
  rw [Bool.or_eq_true, List.isEmpty_iff, List.contains_iff_mem]
  refine listed.imp_right fun there => ?_
  have delivered : (s.payloadsFor spec.name).Perm spec.expected :=
    (s.payloadMismatches_eq_nil_iff expected).1 fine _ _ there
  apply delivered.subset
  exact List.mem_map_of_mem (List.mem_filter.2 ⟨shown, beq_iff_eq.2 own.symm⟩)

/-- **The check of the payloads is exact, and agrees with the delivery loops.** It lists one
violation for each worker that was delivered other payloads than are expected of it, how often each
one counting but not in which order, and for no other worker. The workers come in ascending order,
and both lists are sorted.

Let any delivery loops be at work, each told the list that is expected of its worker, or none at
all. If the check of a snapshot finds nothing, every payload in it is one that the loops of this
worker admit. Every failure on record is of a delivery in the snapshot, and such a failure, even one
that is recorded later, is the handler's own and not that of an unexpected payload. -/
theorem payload_checks_agree (client : Client σ) (expected : Table (List String)) :
    (∃ sorted : List String → List String,
      (∀ payloads, (sorted payloads).Perm payloads ∧ (sorted payloads).Pairwise (· ≤ ·)) ∧
      ∀ s : Snapshot,
        let got := fun worker =>
          (s.observations.filter fun o => o.worker == worker).map Observation.payload
        Violation.OnePerName (s.payloadMismatches expected)
          (fun worker => ∃ wanted, expected.get? worker = some wanted ∧ ¬ (got worker).Perm wanted)
          fun worker => .payloadMismatch worker (sorted ((expected.get? worker).getD []))
            (sorted (got worker))) ∧
    ∀ start here later : Floor σ, start.world.journal = {} → start.loops = [] →
      Leads client start here → Leads client here later →
      (∀ l ∈ later.loops,
        l.spec.expected = [] ∨ expected.get? l.spec.name = some l.spec.expected) →
      let s := here.world.journal.snapshot
      s.payloadMismatches expected = [] →
        (∀ o ∈ s.observations, ∀ l ∈ later.loops, l.spec.name = o.worker →
          l.spec.admits o.payload = true) ∧
        (∀ f ∈ here.world.journal.handlerFailures, ∃ o ∈ s.observations, f.IsOf o) ∧
        ∀ f ∈ later.world.journal.handlerFailures, ∀ o ∈ s.observations, f.IsOf o →
          ∃ l ∈ later.loops, l.spec.name = o.worker ∧ ∃ handler earlier m,
            l.spec.handler = some handler ∧ m.id = o.id ∧ m.payload = o.payload ∧
              (handler l.spec.name earlier m).verdict.failure? = some f.reason := by
  constructor
  · exact ⟨sortNames, fun payloads => ⟨sortBy_perm _ _, pairwise_sortNames payloads⟩,
      fun s => s.payloadMismatches_tell expected⟩
  · intro start here later new empty past future listed s fine
    have soundHere : here.Sound := past.sound (sound_of_new new empty)
    have soundLater : later.Sound := future.sound soundHere
    have admitted : ∀ o ∈ s.observations, ∀ l ∈ later.loops, l.spec.name = o.worker →
        l.spec.admits o.payload = true := fun o shown l member =>
      admits_of_no_mismatch fine (listed l member) shown
    refine ⟨admitted, soundHere.shown, ?_⟩
    rintro f failed o shown ⟨-, worker, id, payload⟩
    obtain ⟨l, member, name, earlier, m, id', payload', reason⟩ := soundLater.accounted f failed
    have own : l.spec.name = o.worker := name.trans worker.symm
    have samePayload : m.payload = o.payload := payload'.trans payload.symm
    have fits : l.spec.admits m.payload = true := samePayload ▸ admitted o shown l member own
    obtain ⟨handler, given, own'⟩ := WorkerSpec.failure?_of_admits fits reason
    exact ⟨l, member, own, handler, earlier, m, given, id'.trans id.symm, samePayload, own'⟩

/-- A worker that expects three payloads, one of them twice, and whose handler fails on that one. -/
def choosySpec : WorkerSpec where
  name := "a"
  handler := some fun _ _ m => { verdict := if m.payload = "memo" then .error "full" else .ok }
  expected := ["memo", "memo", "note"]

/-- It is given its three messages in another order; the last one is on record, but no more. -/
def choosyEvents : List (Event Broker) :=
  let messages : List Message :=
    [⟨.ofNat 0, "memo", none⟩, ⟨.ofNat 1, "note", none⟩, ⟨.ofNat 2, "memo", none⟩]
  let broker := messages.foldl (fun b m => (b.publish "orders" m).2)
    (({} : Broker).subscribe Worker.auditTarget).2
  [.others (.dealt broker), .join choosySpec ⟨Worker.auditTarget.toAddress, 0, 0⟩]
    ++ List.replicate 10 (.step 0)

theorem payload_checks_agree_on_a_choosy_worker :
    let start : Floor Broker := { world := { broker := {} } }
    let expected : Table (List String) := ⟨[("a", choosySpec.expected)]⟩
    start.world.journal = {} ∧ start.loops = [] ∧ ∃ here later,
      Leads Broker.client start here ∧ Leads Broker.client here later ∧
      (∀ l ∈ later.loops,
        l.spec.expected = [] ∨ expected.get? l.spec.name = some l.spec.expected) ∧
      here.world.journal.snapshot.payloadMismatches expected = [] ∧
      here.world.journal.snapshot.size = 3 ∧ here.world.journal.handlerFailures.length = 1 ∧
      later.world.journal.handlerFailures.length = 2 ∧
      ∀ f ∈ later.world.journal.handlerFailures, ∀ o ∈ here.world.journal.snapshot.observations,
        f.IsOf o → ∃ l ∈ later.loops, l.spec.name = o.worker ∧ ∃ handler earlier m,
          l.spec.handler = some handler ∧ m.id = o.id ∧ m.payload = o.payload ∧
            (handler l.spec.name earlier m).verdict.failure? = some f.reason := by
  intro start expected
  have facts : (start.happenAll Broker.client choosyEvents).map (fun here =>
      (here.world.journal.snapshot.payloadMismatches expected, here.world.journal.snapshot.size,
        here.world.journal.handlerFailures.length)) = some ([], 3, 1) := by
    decide +kernel
  obtain ⟨here, run, seen⟩ := Option.map_eq_some_iff.1 facts
  obtain ⟨fine, size, failures⟩ : here.world.journal.snapshot.payloadMismatches expected = [] ∧
      here.world.journal.snapshot.size = 3 ∧ here.world.journal.handlerFailures.length = 1 := by
    simpa using seen
  have facts' : ((start.happenAll Broker.client choosyEvents).bind fun here =>
      (here.happen Broker.client (.step 0)).map fun later =>
        (later.world.journal.handlerFailures.length,
          later.loops.map fun l => (l.spec.name, l.spec.expected))) =
      some (2, [("a", choosySpec.expected)]) := by
    decide +kernel
  rw [run, Option.bind_some] at facts'
  obtain ⟨later, step, seen'⟩ := Option.map_eq_some_iff.1 facts'
  obtain ⟨failures', specs⟩ : later.world.journal.handlerFailures.length = 2 ∧
      later.loops.map (fun l => (l.spec.name, l.spec.expected)) = [("a", choosySpec.expected)] :=
    Prod.mk.inj seen'
  have past : Leads Broker.client start here := leads_of_happenAll run
  have future : Leads Broker.client here later := .on _ .here step
  have listed : ∀ l ∈ later.loops,
      l.spec.expected = [] ∨ expected.get? l.spec.name = some l.spec.expected := by
    intro l member
    have told : (l.spec.name, l.spec.expected) ∈ [("a", choosySpec.expected)] :=
      specs ▸ List.mem_map_of_mem member
    obtain ⟨name, list⟩ := Prod.mk.inj (List.mem_singleton.1 told)
    rw [name, list]
    exact .inr rfl
  obtain ⟨-, checks⟩ := payload_checks_agree Broker.client expected
  obtain ⟨-, -, own⟩ := checks start here later rfl rfl past future listed fine
  exact ⟨rfl, rfl, here, later, past, future, listed, fine, size, failures, failures', own⟩

end Floor

end DeliveryBench
