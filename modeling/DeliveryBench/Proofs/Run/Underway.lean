import DeliveryBench.Proofs.Broker.Serving
import DeliveryBench.Proofs.Run.Barrier

/-!
# A run on the broker in memory

Until a run on a new broker in memory verifies its deliveries, nobody leaves and nothing fails.
`Run.Underway` says where every message that has been published is by then: in the journal, in the
hands of the worker to whom it was delivered, or on that worker's queue. Whatever the order of the
steps, each of them keeps it (`Reachable.underway`).
-/

namespace DeliveryBench

/-- The scenario on the broker in memory. -/
def Broker.plan (s : Scenario) (settings : Settings) : Plan Broker :=
  ⟨s, settings, Broker.client, Broker.producer⟩

/-- The messages that are still to be published, as long as the run may come to verify its
deliveries. -/
def Stage.unpublished (messages : List Message) : Stage → Option (List Message)
  | .starting _ | .settling => some messages
  | .publishing rest none => some rest
  | .waiting _ | .verifying => some []
  | _ => none

/-- The message that a worker has been delivered and not recorded yet. -/
def Worker.inHand (w : Worker) : List Message :=
  match w.loop with
  | none => []
  | some l =>
    match l.phase with
    | .handling m _ => [m]
    | _ => []

/-- The name of the worker at a place. -/
def Scenario.nameAt (s : Scenario) (index : Nat) : String :=
  (s.workers[index]?.map WorkerSpec.name).getD ""

/-- What the worker at a place has taken off its queue, if those are the deliveries on record. -/
def takenBy (workers : List Worker) (entries : List (Nat × Message)) (index : Nat) :
    List Message :=
  (entries.filter fun e => e.1 == index).map Prod.snd ++
    (workers[index]?.map Worker.inHand).getD []

namespace Run

variable {s : Scenario} {settings : Settings} {r r' : Run Broker} {todo : List Message}
  {entries : List (Nat × Message)} {log : List Message} {places : List Place}

structure Underway (s : Scenario) (r : Run Broker) (todo : List Message)
    (entries : List (Nat × Message)) (log : List Message) (places : List Place) : Prop where
  messages : log ++ todo = s.messages
  allStarted : r.startFailures = []
  serving : r.world.broker.Serving s.target r.workers.length
  loops : ∀ (i : Nat) (w : Worker), r.workers[i]? = some w → ∃ l, w.loop = some l ∧
    l.ticket = ⟨s.target.toAddress, Word.wrap i, i⟩
  kept : r.world.journal.Keeps (entries.map fun e => (s.nameAt e.1, e.2))
  known : ∀ e ∈ entries, e.1 < r.workers.length
  accounts : (r.world.broker.groupFor s.target).Accounts (takenBy r.workers entries) log places
  dealt : (r.world.broker.groupFor s.target).Dealt log places

theorem underway_initial (s : Scenario) (settings : Settings) :
    Underway s (initial (Broker.plan s settings) {}) s.messages [] [] [] where
  messages := rfl
  allStarted := rfl
  serving := Broker.serving_new s.target
  loops := fun _ _ there => nomatch there
  kept := Journal.keeps_new
  known := fun _ member => nomatch member
  accounts := Group.accounts_new s.target.mode
  dealt := Group.dealt_new fun _ => rfl

theorem Underway.of_same (underway : Underway s r todo entries log places)
    (workers : r'.workers = r.workers) (broker : r'.world.broker = r.world.broker)
    (journal : r'.world.journal = r.world.journal)
    (failures : r'.startFailures = r.startFailures) :
    Underway s r' todo entries log places where
  messages := underway.messages
  allStarted := failures.trans underway.allStarted
  serving := by
    rw [broker, workers]
    exact underway.serving
  loops := by
    rw [workers]
    exact underway.loops
  kept := by
    rw [journal]
    exact underway.kept
  known := by
    rw [workers]
    exact underway.known
  accounts := by
    rw [broker, workers]
    exact underway.accounts
  dealt := by
    rw [broker]
    exact underway.dealt

/-! ## Starting a worker -/

/-- While workers are being started, nothing has been published. -/
theorem Underway.quiet (underway : Underway s r s.messages entries log places) : log = [] := by
  have messages := underway.messages
  exact List.append_left_eq_self.1 messages

/-- A worker that is idle has taken nothing. -/
theorem takenBy_snoc {workers : List Worker} {w : Worker} (idle : w.inHand = []) :
    takenBy (workers ++ [w]) entries = takenBy workers entries := by
  funext i
  unfold takenBy
  congr 1
  rcases Nat.lt_trichotomy i workers.length with old | rfl | beyond
  · rw [List.getElem?_append_left old]
  · rw [List.getElem?_concat_length, List.getElem?_eq_none (Nat.le_refl _), Option.map_some,
      Option.getD_some, idle]
    rfl
  · rw [List.getElem?_eq_none (by simp; omega), List.getElem?_eq_none (by omega)]

theorem Underway.startWorker (underway : Underway s r s.messages entries log places)
    (spec : WorkerSpec) (rest : List WorkerSpec) :
    Underway s (r.startWorker (Broker.plan s settings) spec rest) s.messages entries log
      places := by
  have serving := underway.serving
  obtain rfl : log = [] := underway.quiet
  obtain rfl : places = [] := List.eq_nil_of_length_eq_zero underway.accounts.length_eq
  have same := Broker.groupFor_of_group? serving.group?_subscribe
  have accepted : r.world.broker.subscribe s.target =
      (.ok ⟨s.target.toAddress, Word.wrap r.workers.length, r.workers.length⟩,
        (r.world.broker.subscribe s.target).2) :=
    Prod.ext serving.subscribe_fst rfl
  rw [startWorker_of_ok spec rest accepted]
  refine ⟨underway.messages, underway.allStarted, ?_, ?_, underway.kept, ?_, ?_, ?_⟩
  · rw [List.length_append, List.length_singleton]
    exact serving.subscribe
  · intro i w there
    rcases Group.getElem?_concat_cases there with old | ⟨rfl, rfl⟩
    · exact underway.loops i w old
    · exact ⟨_, rfl, rfl⟩
  · intro e member
    rw [List.length_append]
    exact Nat.lt_add_right _ (underway.known e member)
  · rw [takenBy_snoc rfl]
    show ((r.world.broker.subscribe s.target).2.groupFor s.target).Accounts _ _ _
    rw [same]
    exact underway.accounts.attach serving.steady.orderly rfl serving.steady.population.symm rfl
  · show ((r.world.broker.subscribe s.target).2.groupFor s.target).Dealt _ _
    rw [same, serving.steady.attach_eq]
    exact Group.dealt_new fun shared => (underway.dealt.turns shared).1

/-! ## Publishing a message -/

theorem Underway.publish {m : Message} {rest : List Message}
    (underway : Underway s r (m :: rest) entries log places) (r' : Run Broker)
    (somebody : 0 < r.workers.length)
    (workers : r'.workers = r.workers)
    (broker : r'.world.broker = (r.world.broker.publish s.target.topic m).2)
    (journal : r'.world.journal = r.world.journal)
    (failures : r'.startFailures = r.startFailures) :
    ∃ place, Underway s r' rest entries (log ++ [m]) (places ++ [place]) := by
  have serving := underway.serving
  have same := Broker.groupFor_of_group? (serving.group?_publish somebody m)
  refine ⟨.queue ((r.world.broker.groupFor s.target).pick m.key).1, ?_,
    failures.trans underway.allStarted, ?_, ?_, ?_, ?_, ?_, ?_⟩
  · rw [List.append_assoc]
    exact underway.messages
  · rw [workers, broker]
    exact serving.publish somebody m
  · rw [workers]
    exact underway.loops
  · rw [journal]
    exact underway.kept
  · rw [workers]
    exact underway.known
  · rw [workers, broker, same]
    exact serving.steady.accounts_dispatch somebody underway.accounts m
  · rw [broker, same]
    exact underway.dealt.dispatch serving.steady somebody underway.accounts.length_eq m

/-! ## A step of a worker -/

/-- Only the worker that takes a step can have taken anything more. -/
theorem takenBy_set {workers : List Worker} {index : Nat} {w : Worker} (w' : Worker)
    (there : workers[index]? = some w) (entries : List (Nat × Message)) :
    takenBy (workers.set index w') entries = fun i =>
      if i = index then (entries.filter fun e => e.1 == index).map Prod.snd ++ w'.inHand
      else takenBy workers entries i := by
  rcases List.getElem?_eq_some_iff.1 there with ⟨inside, -⟩
  funext i
  unfold takenBy
  by_cases here : i = index
  · subst here
    rw [if_pos rfl, List.getElem?_set_self inside]
    rfl
  · rw [if_neg here, List.getElem?_set_ne (Ne.symm here)]

/-- A worker that has no more in hand than before has taken nothing. -/
theorem takenBy_set_same {workers : List Worker} {index : Nat} {w w' : Worker}
    (there : workers[index]? = some w) (same : w'.inHand = w.inHand)
    (entries : List (Nat × Message)) :
    takenBy (workers.set index w') entries = takenBy workers entries := by
  rw [takenBy_set w' there]
  funext i
  split
  · rename_i here
    subst here
    unfold takenBy
    rw [there, same]
    rfl
  · rfl

/-- Recording what is in hand takes nothing either. -/
theorem takenBy_observed {workers : List Worker} {index : Nat} {w w' : Worker} {m : Message}
    (there : workers[index]? = some w) (before : w.inHand = [m]) (after : w'.inHand = []) :
    takenBy (workers.set index w') (entries ++ [(index, m)]) = takenBy workers entries := by
  rw [takenBy_set w' there]
  funext i
  by_cases here : i = index
  · subst here
    rw [if_pos rfl]
    unfold takenBy
    rw [there]
    simp [before, after]
  · rw [if_neg here]
    unfold takenBy
    simp [Ne.symm here]

/-- What a step of a worker has to keep. -/
theorem Underway.setWorker (underway : Underway s r todo entries log places)
    (world : World Broker) {index : Nat} {w : Worker} {l l' : Loop}
    {entries' : List (Nat × Message)}
    (there : r.workers[index]? = some w) (loop : w.loop = some l) (ticket : l'.ticket = l.ticket)
    (serving : world.broker.Serving s.target r.workers.length)
    (kept : world.journal.Keeps (entries'.map fun e => (s.nameAt e.1, e.2)))
    (known : ∀ e ∈ entries', e.1 < r.workers.length)
    (accounts : (world.broker.groupFor s.target).Accounts
      (takenBy (r.workers.set index { w with loop := some l' }) entries') log places)
    (dealt : (world.broker.groupFor s.target).Dealt log places) :
    Underway s { r.setWorker index { w with loop := some l' } with world := world } todo entries'
      log places := by
  have size : (r.workers.set index { w with loop := some l' }).length = r.workers.length :=
    List.length_set
  refine ⟨underway.messages, underway.allStarted, ?_, ?_, kept, ?_, accounts, dealt⟩
  · show world.broker.Serving s.target (r.workers.set index _).length
    rw [size]
    exact serving
  · intro i w' there'
    rw [Run.setWorker, List.getElem?_set] at there'
    split at there'
    · rename_i here
      subst here
      obtain ⟨l'', loop', number⟩ := underway.loops index w there
      obtain rfl : l = l'' := Option.some.inj (loop.symm.trans loop')
      split at there'
      · cases there'
        exact ⟨l', rfl, ticket.trans number⟩
      · cases there'
    · exact underway.loops i w' there'
  · show ∀ e ∈ entries', e.1 < (r.workers.set index _).length
    rw [size]
    exact known

/-- A poll takes off the queue of its worker what it hands out. -/
theorem Underway.poll (underway : Underway s r todo entries log places) {index : Nat}
    {w : Worker} {l l' : Loop} {answer : Reception} {broker : Broker}
    (there : r.workers[index]? = some w) (loop : w.loop = some l) (phase : l.phase = .idle)
    (ticket : l'.ticket = l.ticket)
    (result : Broker.client.receive l.ticket r.world.broker = (answer, broker))
    (taken : Worker.inHand { w with loop := some l' } = Group.handedOut answer) :
    Underway s { r.setWorker index { w with loop := some l' } with
      world := r.world.withBroker broker } todo entries log places := by
  have serving := underway.serving
  rcases List.getElem?_eq_some_iff.1 there with ⟨inside, -⟩
  have somebody : 0 < r.workers.length := Nat.zero_lt_of_lt inside
  obtain ⟨l'', loop', number⟩ := underway.loops index w there
  obtain rfl : l = l'' := Option.some.inj (loop.symm.trans loop')
  have here : l.ticket.address = s.target.toAddress := by rw [number]
  have queue : l.ticket.queue = index := by rw [number]
  obtain rfl : (r.world.broker.receive l.ticket).2 = broker := congrArg Prod.snd result
  have answered : ((r.world.broker.groupFor s.target).receive index).1 = answer := by
    rw [← queue, ← serving.receive_fst somebody here]
    exact congrArg Prod.fst result
  have same := Broker.groupFor_of_group? (serving.group?_receive somebody here)
  rw [queue] at same
  apply underway.setWorker (r.world.withBroker (r.world.broker.receive l.ticket).2) there loop
    ticket (serving.receive somebody here) underway.kept underway.known
  · show ((r.world.broker.receive l.ticket).2.groupFor s.target).Accounts _ _ _
    rw [same]
    have accounts := underway.accounts.receive serving.steady.orderly index
    rw [answered] at accounts
    convert accounts using 1
    rw [takenBy_set _ there, taken]
    funext i
    split
    · rename_i here
      subst here
      have nothing : w.inHand = [] := by simp [Worker.inHand, loop, phase]
      unfold takenBy
      rw [there, Option.map_some, nothing]
      simp
    · rw [List.append_nil]
  · show ((r.world.broker.receive l.ticket).2.groupFor s.target).Dealt _ _
    rw [same]
    exact underway.dealt.receive index

theorem Underway.move (underway : Underway s r todo entries log places) {index : Nat}
    {w : Worker} {l l' : Loop} {world : World Broker} (there : r.workers[index]? = some w)
    (loop : w.loop = some l) (orders : l.spec = w.spec) (named : s.nameAt index = w.spec.name)
    (move : Loop.Move Broker.client l r.world l' world) :
    ∃ entries', Underway s { r.setWorker index { w with loop := some l' } with world := world }
      todo entries' log places := by
  have ticket := move.same.2.1
  -- The broker is left alone, and nothing is recorded but handler failures.
  have still (broker : world.broker = r.world.broker)
      (kept : world.journal.Keeps (entries.map fun e => (s.nameAt e.1, e.2)))
      (same : Worker.inHand { w with loop := some l' } = w.inHand) :
      ∃ entries', Underway s { r.setWorker index { w with loop := some l' } with world := world }
        todo entries' log places := by
    refine ⟨entries, underway.setWorker world there loop ticket ?_ kept underway.known ?_ ?_⟩
    · rw [broker]
      exact underway.serving
    · rw [broker, takenBy_set_same there same]
      exact underway.accounts
    · rw [broker]
      exact underway.dealt
  cases move with
  | stopped phase => exact still rfl underway.kept (by simp [Worker.inHand, loop, phase])
  | took phase _ result => exact ⟨entries, underway.poll there loop phase ticket result rfl⟩
  | deserted phase _ result => exact ⟨entries, underway.poll there loop phase ticket result rfl⟩
  | broke phase _ result => exact ⟨entries, underway.poll there loop phase ticket result rfl⟩
  | @observed m reaction phase =>
      refine ⟨entries ++ [(index, m)], underway.setWorker _ there loop ticket underway.serving ?_
        ?_ ?_ underway.dealt⟩
      · rw [List.map_append, List.map_singleton, named, ← orders]
        exact underway.kept.record l.spec.name m
      · intro e member
        rcases List.mem_append.1 member with old | new
        · exact underway.known e old
        · rw [List.mem_singleton.1 new]
          exact (List.getElem?_eq_some_iff.1 there).1
      · rw [takenBy_observed there (by simp [Worker.inHand, loop, phase]) rfl]
        exact underway.accounts
  | collapsed phase => exact still rfl underway.kept (by simp [Worker.inHand, loop, phase])
  | passed phase => exact still rfl underway.kept (by simp [Worker.inHand, loop, phase])
  | failed phase =>
      exact still rfl (underway.kept.recordFailure _ _ _ _) (by simp [Worker.inHand, loop, phase])
  | counted phase =>
      refine still (World.countDown_broker _ _) ?_ (by simp [Worker.inHand, loop, phase])
      rw [World.countDown_journal]
      exact underway.kept

/-! ## The whole run -/

theorem Roster.nameAt (roster : Roster (Broker.plan s settings) r) {index : Nat} {w : Worker}
    (there : r.workers[index]? = some w) : s.nameAt index = w.spec.name := by
  have listed : s.workers[index]? = some w.spec := roster.spec_at there
  unfold Scenario.nameAt
  rw [listed]
  rfl

theorem Underway.turn (underway : ∀ todo, r.stage.unpublished s.messages = some todo →
      ∃ entries log places, Underway s r todo entries log places)
    (roster : Roster (Broker.plan s settings) r) (crewed : s.workers ≠ [])
    (turn : Turn (Broker.plan s settings) r r')
    (ahead : r'.stage.unpublished s.messages = some todo) :
    ∃ entries log places, Underway s r' todo entries log places := by
  cases turn with
  | startedOne stage =>
      obtain rfl : s.messages = todo := Option.some.inj ahead
      obtain ⟨entries, log, places, before⟩ := underway s.messages (by rw [stage]; rfl)
      exact ⟨entries, log, places, before.startWorker _ _⟩
  | startedAll stage | settled stage =>
      obtain rfl : s.messages = todo := Option.some.inj ahead
      obtain ⟨entries, log, places, before⟩ := underway s.messages (by rw [stage]; rfl)
      exact ⟨entries, log, places, before.of_same rfl rfl rfl rfl⟩
  | @published m rest failed broker stage result =>
      cases failed with
      | some f => cases ahead
      | none =>
          obtain rfl : rest = todo := Option.some.inj ahead
          obtain ⟨entries, log, places, before⟩ := underway (m :: rest) (by rw [stage]; rfl)
          have somebody : 0 < r.workers.length := by
            rw [roster.length_eq (by rw [stage]; rfl)]
            exact List.length_pos_iff.2 crewed
          have after : (r.world.broker.publish s.target.topic m).2 = broker :=
            congrArg Prod.snd result
          obtain ⟨place, dealt⟩ := before.publish
            { r with world := r.world.withBroker broker, stage := .publishing rest none }
            somebody rfl after.symm rfl rfl
          exact ⟨entries, _, _, dealt⟩
  | publishedAll stage | metAll stage | metSome stage =>
      obtain rfl : [] = todo := Option.some.inj ahead
      obtain ⟨entries, log, places, before⟩ := underway [] (by rw [stage]; rfl)
      exact ⟨entries, log, places, before.of_same rfl rfl rfl rfl⟩
  | startFailed | publishRefused | publishNoted | publishFailed | timedOut | overflowed | violated
  | verified | judged | stoppedAll | marked | asked | ended | endedLate | aborted | closed
  | reported => cases ahead

/-- **Where the messages are.** In every state of a run on a new broker in memory from which the
deliveries may come to be verified, whatever has been published is accounted for. -/
theorem Reachable.underway (reachable : Reachable (Broker.plan s settings) {} r)
    (crewed : s.workers ≠ []) (todo : List Message)
    (ahead : r.stage.unpublished s.messages = some todo) :
    ∃ entries log places, Underway s r todo entries log places := by
  induction reachable generalizing todo with
  | initial =>
      obtain rfl : s.messages = todo := Option.some.inj ahead
      exact ⟨[], [], [], underway_initial s settings⟩
  | @step r r' step reachable taken ih =>
      have roster := reachable.roster
      cases step with
      | runner => exact Underway.turn ih roster crewed (runnerStep_turn taken) ahead
      | worker index =>
          rcases workerStep_move taken with ⟨w, l, l', world, there, loop, move, rfl⟩
          obtain ⟨entries, log, places, before⟩ := ih todo ahead
          have orders := roster.loops w (List.mem_of_getElem? there) l loop
          obtain ⟨entries', after⟩ :=
            before.move there loop orders (roster.nameAt there) move
          exact ⟨entries', log, places, after⟩
      | timeout =>
          rcases timeoutStep_cases taken with ⟨_, _, _, rfl⟩ | ⟨_, _, _, _, _, rfl⟩ <;> cases ahead
      | gate name =>
          cases taken
          obtain ⟨entries, log, places, before⟩ := ih todo ahead
          exact ⟨entries, log, places, before.of_same rfl rfl rfl rfl⟩
      | broker =>
          cases taken
          obtain ⟨entries, log, places, before⟩ := ih todo ahead
          exact ⟨entries, log, places, before.of_same rfl rfl rfl rfl⟩

end Run

end DeliveryBench
