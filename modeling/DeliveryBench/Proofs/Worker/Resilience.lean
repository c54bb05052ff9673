import DeliveryBench.Proofs.Worker.Bookkeeping

/-!
# What a handler can do to its worker

An error or a panic of the handler is put on record, and the loop goes on to the next message
(`Worker.happenAll_of_handled`). A loop that has not been asked to stop ends only where its
subscription ends or breaks down, or where it is aborted (`Lives.accounted`), so no stop has to
report that the delivery task failed on account of the handler (`Worker.no_handler_ends_its_loop`).

Caveat: an error of which no text can be made does end the loop. The delivery is then on record, but
its failure is not, and it is not counted (`Worker.loop_ended_by_an_unprintable_error`). Two more
ways to end or to hold up a loop are beyond `Verdict`: an error, or what a panic carries, that
panics when it is discarded, and an error whose text never comes to an end.
-/

namespace DeliveryBench

variable {σ : Type}

/-- Records the failure of a delivery, if it failed. -/
def Journal.blame (j : Journal) (worker : String) (m : Message) (sequence : Nat)
    (verdict : Verdict) : Journal :=
  match verdict.failure? with
  | none => j
  | some reason => j.recordFailure worker m sequence reason

/-- The world once a delivery has been recorded, blamed if it failed, and counted. -/
def World.afterDelivery (world : World σ) (spec : WorkerSpec) (m : Message) (verdict : Verdict) :
    World σ :=
  let (sequence, journal) := world.journal.record spec.name m
  { world with journal := journal.blame spec.name m sequence verdict }.countDown spec.signal

/-- What cannot be blamed is not, and what can be is. -/
theorem Loop.recordFailure_eq (l : Loop) (m : Message) (sequence : Nat) {verdict : Verdict}
    (printable : ∀ text, verdict ≠ .unprintable text) (world : World σ) :
    l.recordFailure m sequence verdict world = ({ l with phase := .recorded m },
      { world with journal := world.journal.blame l.spec.name m sequence verdict }) := by
  unfold recordFailure Journal.blame
  split
  · exact absurd rfl (printable _)
  · cases verdict.failure? with
    | none => rfl
    | some reason => rfl

namespace Worker

variable {client : Client σ} {w w' : Worker} {world world' : World σ} {event : Event σ}
  {past : List (Moment σ)} {spec : WorkerSpec} {l l' : Loop}

/-! ## The loop goes on -/

theorem happenAll_append (client : Client σ) (w : Worker) (world : World σ)
    (first second : List (Event σ)) :
    w.happenAll client world (first ++ second) =
      (w.happenAll client world first).bind fun next => next.1.happenAll client next.2 second :=
  List.foldlM_append

theorem happen_step (loop : w.loop = some l) :
    w.happen client world .step =
      (l.step client world).map fun next => ({ w with loop := some next.1 }, next.2) := by
  show w.step client world = _
  unfold step
  rw [loop]

theorem happenAll_step (loop : w.loop = some l) (stepped : l.step client world = some (l', world'))
    (rest : List (Event σ)) : w.happenAll client world (.step :: rest) =
      happenAll client { w with loop := some l' } world' rest := by
  show (w.happen client world .step).bind _ = _
  rw [happen_step loop, stepped]
  rfl

theorem happenAll_of_recorded {m : Message} (loop : w.loop = some l)
    (phase : l.phase = .recorded m) :
    w.happenAll client world [.step] =
      some ({ w with loop := some { l with phase := .idle } }, world.countDown l.spec.signal) := by
  have stepped : l.step client world =
      some ({ l with phase := .idle }, world.countDown l.spec.signal) := by
    unfold Loop.step
    rw [phase]
  exact happenAll_step loop stepped []

theorem happenAll_of_observed {m : Message} {sequence : Nat} {verdict : Verdict}
    (loop : w.loop = some l) (phase : l.phase = .observed m sequence verdict)
    (printable : ∀ text, verdict ≠ .unprintable text) :
    w.happenAll client world [.step, .step] =
      some ({ w with loop := some { l with phase := .idle } },
        { world with journal := world.journal.blame l.spec.name m sequence verdict }.countDown
          l.spec.signal) := by
  have stepped : l.step client world = some ({ l with phase := .recorded m },
      { world with journal := world.journal.blame l.spec.name m sequence verdict }) := by
    unfold Loop.step
    rw [phase]
    exact congrArg some (l.recordFailure_eq m sequence printable world)
  rw [happenAll_step loop stepped]
  exact happenAll_of_recorded (l := { l with phase := .recorded m }) rfl rfl

/-- **A message whose handling is through is recorded, blamed if it failed, and counted**, and the
loop polls again. -/
theorem happenAll_of_handled {m : Message} {reaction : Reaction} (loop : w.loop = some l)
    (phase : l.phase = .handling m reaction) (isOpen : world.isOpen reaction.gate = true)
    (printable : ∀ text, reaction.verdict ≠ .unprintable text) :
    w.happenAll client world [.step, .step, .step] =
      some ({ w with loop := some { l with phase := .idle } },
        world.afterDelivery l.spec m reaction.verdict) := by
  have stepped : l.step client world =
      some ({ l with phase := .observed m world.journal.next reaction.verdict },
        { world with journal := (world.journal.record l.spec.name m).2 }) := by
    unfold Loop.step
    rw [phase]
    exact if_pos isOpen
  rw [happenAll_step loop stepped]
  exact happenAll_of_observed
    (l := { l with phase := .observed m world.journal.next reaction.verdict }) rfl rfl printable

/-- As long as the handler does not keep it waiting, a loop comes back to its poll by itself. -/
theorem exists_idle (client : Client σ) (loop : w.loop = some l)
    (goesOn : ∀ ending, l.phase ≠ .ended ending) (isOpen : world.isOpen l.gate? = true)
    (handled : ∀ m reaction, l.phase = .handling m reaction →
      ∀ text, reaction.verdict ≠ .unprintable text)
    (observed : ∀ m sequence text, l.phase ≠ .observed m sequence (.unprintable text)) :
    ∃ steps world', steps ≤ 3 ∧ w.happenAll client world (List.replicate steps .step) =
      some ({ w with loop := some { l with phase := .idle } }, world') := by
  cases phase : l.phase with
  | idle =>
      have same : { l with phase := .idle } = l := by rw [← phase]
      exact ⟨0, world, by decide, by rw [same, ← loop]; rfl⟩
  | handling m reaction =>
      rw [Loop.gate?, phase] at isOpen
      exact ⟨3, _, by decide, happenAll_of_handled loop phase isOpen (handled m reaction phase)⟩
  | observed m sequence verdict =>
      refine ⟨2, _, by decide, happenAll_of_observed loop phase ?_⟩
      rintro text rfl
      exact observed _ _ _ phase
  | recorded m => exact ⟨1, _, by decide, happenAll_of_recorded loop phase⟩
  | ended ending => exact absurd phase (goesOn ending)

/-- A loop that has been asked to stop finishes at its next poll. -/
theorem finish_of_idle (parting : w.isParting = true) (loop : w.loop = some l)
    (phase : l.phase = .idle) (asked : l.stopRequested = true) :
    (w.happenAll client world [.step, .part (.ended .finished)]).isSome := by
  have stepped : l.step client world = some ({ l with phase := .ended .finished }, world) := by
    unfold Loop.step Loop.poll
    rw [phase, if_pos asked]
  rw [happenAll_step loop stepped]
  have due : isParting { w with loop := some { l with phase := .ended .finished } } = true :=
    parting
  have there : ending? { w with loop := some { l with phase := .ended .finished } } =
      some .finished := rfl
  simp [happenAll, happen, due, there, StopOutcome.fits]

/-! ## How a loop can end -/

/-- What a loop can have ended from. -/
def Accounted (client : Client σ) (past : List (Moment σ)) : Ending → Prop
  | .finished => True
  | .crashed text => text.isSome = true ∧ ∃ x ∈ past, x.breakdown? client = text
  | .aborted => ∃ x ∈ past, x.event = .abort

theorem Accounted.later {ending : Ending} (accounted : Accounted client past ending)
    (x : Moment σ) : Accounted client (past ++ [x]) ending := by
  cases ending with
  | finished => exact trivial
  | crashed text =>
      obtain ⟨given, y, member, breaks⟩ := accounted
      exact ⟨given, y, List.mem_append_left _ member, breaks⟩
  | aborted =>
      obtain ⟨y, member, aborts⟩ := accounted
      exact ⟨y, List.mem_append_left _ member, aborts⟩

theorem Loop.Move.accounted (loop : w.loop = some l) (move : Loop.Move client l world l' world')
    (printable : ∀ m sequence text, l.phase ≠ .observed m sequence (.unprintable text))
    {ending : Ending} (ended : l'.phase = .ended ending) :
    Accounted client (past ++ [⟨w, world, .step⟩]) ending := by
  have mover : (⟨w, world, .step⟩ : Moment σ).loop? = some l := loop
  cases move with
  | stopped | deserted =>
      cases ended
      exact trivial
  | broke phase goesOn answer =>
      cases ended
      refine ⟨rfl, _, List.mem_concat_self, ?_⟩
      simp [Moment.breakdown?, Moment.polled?, mover, phase, goesOn, answer]
  | collapsed phase => exact absurd phase (printable _ _ _)
  | took | observed | passed | failed | counted => cases ended

section Life

variable {first : World σ} {stopTimeout : Duration}

/-- Whatever its handler does, a loop ends because it is asked to, because of its subscription, or
because it is aborted. -/
theorem Lives.accounted (lives : Lives client { spec, stopTimeout } first past w world)
    (new : first.journal = {}) (printable : spec.Printable) {ending : Ending}
    (ended : w.ending? = some ending) : Accounted client past ending := by
  induction lives with
  | here => cases ended
  | on event lives taken ih =>
      have kept := lives.kept new printable
      have happening := happening_of_happen taken
      generalize Moment.deeds client _ = calls at happening
      generalize Moment.answer? client _ = answer at happening
      cases happening with
      | joined => cases ended
      | turnedAway | refused | hollow | parted | elsewhere => exact (ih ended).later _
      | @moved l _ _ loop move =>
          obtain ⟨l', same, phase⟩ := exists_of_ending? ended
          obtain rfl := Option.some.inj same
          exact Loop.Move.accounted loop move (kept.busy l loop).printable phase
      | asked begun | marked _ begun =>
          obtain ⟨l', loop', phase⟩ := exists_of_ending? ended
          obtain ⟨l, loop, same⟩ := (beginStop_loop begun).2 l' loop'
          refine (ih ?_).later _
          rw [same.phase] at phase
          simp [ending?, loop, Loop.ending?, phase]
      | aborted aborted =>
          obtain ⟨l, -, -, rfl⟩ := exists_loop_of_abort? aborted
          cases ended
          exact ⟨_, List.mem_concat_self, rfl⟩

/-- What a handler cannot keep its worker from, after such a past and whatever comes next. -/
structure Resilient (client : Client σ) (spec : WorkerSpec) (past : List (Moment σ)) (w : Worker)
    (world : World σ) : Prop where
  /-- A loop breaks down only with its subscription. -/
  breaksDown : ∀ text, w.ending? = some (.crashed text) →
    text.isSome = true ∧ ∃ x ∈ past, x.breakdown? client = text
  /-- Once its handling is through, a delivery is recorded, blamed if it failed, and counted, and
  the loop polls again. -/
  goesOn : ∀ l m reaction, w.loop = some l → l.phase = .handling m reaction →
    world.isOpen reaction.gate = true → w.happenAll client world [.step, .step, .step] =
      some ({ w with loop := some { l with phase := .idle } },
        world.afterDelivery spec m reaction.verdict)
  /-- The next message is handled. -/
  polls : ∀ l m broker, w.loop = some l → l.phase = .idle → l.stopRequested = false →
    client.receive l.ticket world.broker = (.message m, broker) →
    w.happen client world .step = some ({ w with loop := some (l.take m) }, world.withBroker broker)
  /-- Whatever else happens meanwhile, every delivery on record has been counted, but for one that
  is about to be. -/
  counted : Worker.counted past ++ w.uncounted = (recordings past).map Run.Recording.message
  /-- And every one that failed is among the handler failures once, but for one that is about to
  be. -/
  blamed : Shards.of world.journal.failed spec.name = failures past ∧
    failures past ++ w.unblamed = (recordings past).filterMap Run.Recording.failure?
  /-- A stop reports a delivery task that failed only if the subscription broke down or somebody
  else aborted it. -/
  reports : ∀ outcome w' world', w.happen client world (.part outcome) = some (w', world') →
    outcome = .ended .finished ∨ outcome = .timedOut ∨
      (∃ x ∈ past, (x.breakdown? client).isSome = true) ∨ ∃ x ∈ past, x.event = .abort
  /-- A stop of a loop that the handler does not keep waiting can end well. -/
  finishes : w.isParting = true → ∀ l, w.loop = some l → (∀ ending, l.phase ≠ .ended ending) →
    world.isOpen l.gate? = true → ∃ steps ≤ 4, (w.happenAll client world
      (List.replicate steps .step ++ [.part (.ended .finished)])).isSome

theorem no_handler_ends_its_loop (new : first.journal = {}) (printable : spec.Printable)
    (lives : Lives client { spec, stopTimeout } first past w world) :
    Resilient client spec past w world := by
  have kept := lives.kept new printable
  have handled (l : Loop) (loop : w.loop = some l) (m : Message) (reaction : Reaction)
      (phase : l.phase = .handling m reaction) (text : Option String) :
      reaction.verdict ≠ .unprintable text := by
    rw [(kept.busy l loop).reaction m reaction phase]
    exact printable _ _ _
  constructor
  · intro text ended
    exact lives.accounted new printable ended
  · intro l m reaction loop phase isOpen
    rw [← (kept.busy l loop).told]
    exact happenAll_of_handled loop phase isOpen (handled l loop m reaction phase)
  · intro l m broker loop phase goesOn answer
    rw [happen_step loop]
    simp [Loop.step, Loop.poll, phase, goesOn, answer]
  · exact kept.counted
  · exact ⟨kept.journal.failed, kept.blamed⟩
  · intro outcome w' world' taken
    obtain ⟨ticket, ending, -, -, ended, fits, -⟩ := (happening_of_happen taken).of_part
    have accounted := lives.accounted new printable ended
    cases outcome with
    | timedOut => exact .inr (.inl rfl)
    | ended ending' =>
        obtain rfl : ending = ending' := Option.some.inj (beq_iff_eq.1 fits)
        cases ending with
        | finished => exact .inl rfl
        | crashed text =>
            obtain ⟨given, x, member, breaks⟩ := accounted
            exact .inr (.inr (.inl ⟨x, member, breaks ▸ given⟩))
        | aborted => exact .inr (.inr (.inr accounted))
  · intro parting l loop goesOn isOpen
    obtain ⟨steps, world', few, idle⟩ := exists_idle client loop goesOn isOpen
      (handled l loop) (kept.busy l loop).printable
    have winding := lives.stands.winding (isParting_iff.1 parting).1
    have asked : l.stopRequested = true :=
      (winding.asked l loop).resolve_right fun ⟨ending, ended⟩ => goesOn ending ended
    refine ⟨steps + 1, Nat.succ_le_succ few, ?_⟩
    rw [List.replicate_succ', List.append_assoc, happenAll_append, idle]
    exact finish_of_idle (l := { l with phase := .idle }) parting rfl rfl asked

end Life

/-- A worker whose handler comes to the same end on every message. -/
def stubbornSpec (verdict : Verdict) : WorkerSpec where
  name := "a"
  handler := some fun _ _ _ => { verdict }
  signal := some 0

/-- It is started and given two messages, and its loop takes so many steps. -/
def stubbornEvents (steps : Nat) : List (Event Broker) :=
  let messages : List Message := [⟨.ofNat 0, "note", none⟩, ⟨.ofNat 1, "note", none⟩]
  let broker := messages.foldl (fun b m => (b.publish "orders" m).2)
    (({} : Broker).subscribe auditTarget).2
  [.start auditTarget, .others (.dealt broker)] ++ List.replicate steps .step

/-- The handler panics on the first message; while it is at the second, the worker is asked to
stop, which can end well. -/
theorem stop_of_a_panicky_handler :
    let spec := stubbornSpec (.panic none)
    let worker : Worker := { spec, stopTimeout := .ofSecs 5 }
    let first : World Broker := { broker := {}, signals := [.fresh 2] }
    let past := moments Broker.client worker first (stubbornEvents 5 ++ [.ask])
    first.journal = {} ∧ spec.Printable ∧ ∃ w world,
      Lives Broker.client worker first past w world ∧ (failures past).length = 1 ∧
      Shards.of world.journal.failed "a" = failures past ∧
      ∃ steps ≤ 4, (w.happenAll Broker.client world
        (List.replicate steps .step ++ [.part (.ended .finished)])).isSome := by
  intro spec worker first past
  have new : first.journal = {} := rfl
  have printable : spec.Printable := by
    intro earlier m text
    unfold WorkerSpec.react
    split <;> nofun
  have come : (worker.happenAll Broker.client first (stubbornEvents 5 ++ [.ask])).any
      (fun next => next.1.isParting && next.1.ending?.isNone && next.1.loop.any fun l =>
        next.2.isOpen l.gate?) = true := by
    decide +kernel
  obtain ⟨⟨w, world⟩, run, holds⟩ := (Option.any_eq_true _ _).1 come
  rw [Bool.and_eq_true, Bool.and_eq_true] at holds
  obtain ⟨⟨parting, goesOn⟩, free⟩ := holds
  obtain ⟨l, loop, isOpen⟩ := (Option.any_eq_true _ _).1 free
  have there : w.loop = some l := loop
  have unended (ending : Ending) (ended : l.phase = .ended ending) : False := by
    have come : w.ending? = some ending := by simp [ending?, there, Loop.ending?, ended]
    cases goesOn.symm.trans (congrArg Option.isNone come)
  have lives : Lives Broker.client worker first past w world := Lives.here.all run
  have laws := no_handler_ends_its_loop new printable lives
  exact ⟨new, printable, w, world, lives, by decide +kernel, laws.blamed.1,
    laws.finishes parting l loop unended isOpen⟩

/-- The handler returns an error of which no text can be made: the delivery is on record, but it is
neither blamed nor counted, the second message is not received, and the stop fails. -/
theorem loop_ended_by_an_unprintable_error :
    let worker : Worker :=
      { spec := stubbornSpec (.unprintable (some "no text")), stopTimeout := .ofSecs 5 }
    let first : World Broker := { broker := {}, signals := [.fresh 2] }
    let events := stubbornEvents 3 ++ [.ask, .part (.ended (.crashed (some "no text")))]
    let past := moments Broker.client worker first events
    (∃ w world, Lives Broker.client worker first past w world ∧ world.count 0 = 2) ∧
      (received Broker.client past).length = 1 ∧ (recordings past).length = 1 ∧
      failures past = [] ∧ Worker.counted past = [] ∧
      (past.filterMap (Moment.answer? Broker.client)).getLast? = some (.error (.stop "a"
        "delivery task failed: task N panicked with message \"no text\"")) := by
  intro worker first events past
  have come : (worker.happenAll Broker.client first events).any
      (fun next => next.2.count 0 = 2) = true := by
    decide +kernel
  obtain ⟨⟨w, world⟩, run, left⟩ := (Option.any_eq_true _ _).1 come
  exact ⟨⟨w, world, Lives.here.all run, of_decide_eq_true left⟩, by decide +kernel,
    by decide +kernel, by decide +kernel, by decide +kernel, by decide +kernel⟩

end Worker

end DeliveryBench
