import DeliveryBench.Proofs.Worker.Handle
import DeliveryBench.Proofs.Worker.Tally

/-!
# What a worker puts on record

What a worker has on record is what it has received, in order, up to the message in hand; each
delivery on record is counted once, and blamed once if it failed. When the loop is aborted, the
message in hand is lost; after a request to stop at most that message is still put on record
(`Winding.records`), and after a stop nothing is (`Still.silent`). The parts are put together in
`Worker.bookkeeping_is_exact`.
-/

namespace DeliveryBench

variable {σ : Type}

namespace Worker

variable {client : Client σ} {w w' : Worker} {world world' : World σ} {event : Event σ}
  {past : List (Moment σ)} {spec : WorkerSpec} {calls : List Deed}

/-! ## The end of a life -/

section Ending

variable {later : List (Moment σ)} {new : List Deed} {answer : Option (Except Failure Unit)}

/-- Nothing is put on record, and nothing is counted. -/
structure Silent (past : List (Moment σ)) : Prop where
  recordings : recordings past = []
  failures : failures past = []
  counted : counted past = []

/-- There is no delivery loop that goes on, and there will be none. -/
structure Still (w : Worker) : Prop where
  left : w.state ≠ .created
  ended : ∀ l, w.loop = some l → ∃ ending, l.phase = .ended ending

/-- A delivery loop that goes on has been asked to stop, and there will be no other. -/
structure Winding (w : Worker) : Prop where
  left : w.state ≠ .created
  asked : ∀ l, w.loop = some l → l.stopRequested = true ∨ ∃ ending, l.phase = .ended ending

theorem Happening.left (happening : Happening client w world event new answer w' world')
    (left : w.state ≠ .created) : w'.state ≠ .created := by
  rcases happening.onward with same | onward
  · rwa [same]
  · exact onward.ne_created

theorem Still.happening (still : Still w)
    (happening : Happening client w world event new answer w' world') :
    Still w' ∧ (⟨w, world, event⟩ : Moment σ).loop? = none := by
  have left := happening.left still.left
  cases happening with
  | joined state | turnedAway state => exact absurd state still.left
  | refused | hollow | parted | elsewhere => exact ⟨⟨left, still.ended⟩, rfl⟩
  | @moved l l' world' loop move =>
      obtain ⟨ending, ended⟩ := still.ended l loop
      exact absurd ended (move.unended ending)
  | asked begun | marked _ begun =>
      refine ⟨⟨left, ?_⟩, rfl⟩
      intro l' loop'
      obtain ⟨l, loop, same⟩ := (beginStop_loop begun).2 l' loop'
      rw [same.phase]
      exact still.ended l loop
  | aborted aborted =>
      obtain ⟨l, loop, -, rfl⟩ := exists_loop_of_abort? aborted
      refine ⟨⟨left, ?_⟩, rfl⟩
      rintro l' ⟨⟩
      exact ⟨_, rfl⟩

theorem Still.silent (still : Still w) (lives : Lives client w world later w' world') :
    Still w' ∧ Silent later := by
  induction lives with
  | here => exact ⟨still, rfl, rfl, rfl⟩
  | on event _ taken ih =>
      obtain ⟨still', silent⟩ := ih
      obtain ⟨still'', aside⟩ := still'.happening (happening_of_happen taken)
      obtain ⟨-, recordings, failures, counted⟩ := reads_snoc_of_aside client _ aside
      exact ⟨still'', recordings.trans silent.recordings, failures.trans silent.failures,
        counted.trans silent.counted⟩

theorem Loop.Move.wind {l l' : Loop} (loop : w.loop = some l) (asked : l.stopRequested = true)
    (move : Loop.Move client l world l' world') :
    ((⟨w, world, .step⟩ : Moment σ).recording?.map Run.Recording.message).toList ++ l'.inHand =
      l.inHand := by
  have mover : (⟨w, world, .step⟩ : Moment σ).loop? = some l := loop
  cases move with
  | took _ goesOn | deserted _ goesOn | broke _ goesOn => cases asked.symm.trans goesOn
  | observed phase =>
      simp [Moment.recording?, mover, phase, Loop.inHand, Run.Recording.message,
        Observation.message]
  | stopped phase | collapsed phase | passed phase | failed phase | counted phase =>
      simp [Moment.recording?, mover, phase, Loop.inHand]

theorem Winding.happening (winding : Winding w)
    (happening : Happening client w world event new answer w' world') : Winding w' ∧
      ((⟨w, world, event⟩ : Moment σ).recording?.map Run.Recording.message).toList ++ w'.inHand <+:
        w.inHand := by
  have left := happening.left winding.left
  rw [inHand_eq, inHand_eq]
  cases happening with
  | joined state | turnedAway state => exact absurd state winding.left
  | refused | hollow | parted | elsewhere => exact ⟨⟨left, winding.asked⟩, List.prefix_rfl⟩
  | @moved l l' world' loop move =>
      rcases winding.asked l loop with asked | ⟨ending, ended⟩
      · refine ⟨⟨left, ?_⟩, ?_⟩
        · rintro l'' ⟨⟩
          exact .inl (move.same.2.2.trans asked)
        · rw [loop]
          exact (Loop.Move.wind loop asked move) ▸ List.prefix_rfl
      · exact absurd ended (move.unended ending)
  | asked begun | marked _ begun =>
      obtain ⟨idle, busy⟩ := beginStop_loop begun
      refine ⟨⟨left, ?_⟩, ?_⟩
      · intro l' loop'
        obtain ⟨l, loop, same⟩ := busy l' loop'
        rw [same.phase]
        exact (winding.asked l loop).imp_left same.asked
      · cases loop' : w'.loop with
        | none => rw [idle loop']; exact List.prefix_rfl
        | some l' =>
            obtain ⟨l, loop, same⟩ := busy l' loop'
            rw [loop]
            show [] ++ l'.inHand <+: l.inHand
            rw [Loop.inHand, same.phase]
            exact List.prefix_rfl
  | aborted aborted =>
      obtain ⟨l, loop, -, rfl⟩ := exists_loop_of_abort? aborted
      refine ⟨⟨left, ?_⟩, List.nil_prefix⟩
      rintro l' ⟨⟩
      exact .inr ⟨_, rfl⟩

theorem Winding.records (winding : Winding w) (lives : Lives client w world later w' world') :
    Winding w' ∧ (recordings later).map Run.Recording.message ++ w'.inHand <+: w.inHand := by
  induction lives with
  | here => exact ⟨winding, List.prefix_rfl⟩
  | @on past w w' world world' event _ taken ih =>
      obtain ⟨winding', before⟩ := ih
      obtain ⟨winding'', step⟩ := winding'.happening (happening_of_happen taken)
      refine ⟨winding'', .trans ?_ before⟩
      rw [recordings_snoc, List.map_append, List.append_assoc, List.prefix_append_right_inj]
      generalize (⟨w, world, event⟩ : Moment σ).recording? = recorded at step ⊢
      cases recorded <;> exact step

/-- The loop of a worker that has been stopped has been asked to stop, unless it has ended. -/
theorem Stands.loop_of_stopped {l : Loop} (stands : w.Stands calls) (stopped : w.state = .stopped)
    (loop : w.loop = some l) :
    (w.ticket.isSome = true ∧ l.stopRequested = true) ∨ ∃ ending, l.phase = .ended ending := by
  cases stands with
  | created _ _ _ none | dismissed _ _ none => cases loop.symm.trans none
  | serving stands => exact absurd stopped stands.ne_stopped
  | leaving stands =>
      cases stands with
      | leaves _ held there asked =>
          obtain rfl := Option.some.inj (loop.symm.trans there)
          exact .inl ⟨Option.isSome_of_eq_some held, asked⟩
  | left stands =>
      cases stands with
      | left _ _ there ended =>
          obtain rfl := Option.some.inj (loop.symm.trans there)
          exact .inr ⟨_, ended⟩
  | writtenOff stands =>
      cases stands with
      | dismissed _ _ none => cases loop.symm.trans none

theorem Stands.winding (stands : w.Stands calls) (stopped : w.state = .stopped) : Winding w where
  left created := by cases created.symm.trans stopped
  asked _ loop := (stands.loop_of_stopped stopped loop).imp_left And.right

theorem Stands.still (stands : w.Stands calls) (stopped : w.state = .stopped)
    (given : w.ticket = none) : Still w where
  left created := by cases created.symm.trans stopped
  ended _ loop := (stands.loop_of_stopped stopped loop).resolve_left fun held => by
    rw [given] at held
    cases held.1

theorem Stands.still_of_abort (stands : w.Stands calls) (aborted : w.abort? = some w') :
    Still w' := by
  obtain ⟨l, loop, -, rfl⟩ := exists_loop_of_abort? aborted
  constructor
  · intro state
    cases (stands.of_created state).2.2.2.symm.trans loop
  · rintro l' ⟨⟩
    exact ⟨_, rfl⟩

/-- Nothing is left to be done for a loop that has ended. -/
theorem Still.settled (still : Still w) : w.uncounted = [] ∧ w.unblamed = [] := by
  unfold uncounted unblamed
  cases loop : w.loop with
  | none => exact ⟨rfl, rfl⟩
  | some l =>
      obtain ⟨ending, ended⟩ := still.ended l loop
      simp [Loop.uncounted, Loop.blame?, ended]

end Ending

section Life

variable {first : World σ} {stopTimeout : Duration}

theorem Lives.kept (lives : Lives client { spec, stopTimeout } first past w world)
    (new : first.journal = {}) (printable : spec.Printable) :
    Kept client spec first past w world := by
  induction lives with
  | here =>
      refine ⟨fun _ => ⟨rfl, rfl, rfl, rfl⟩, ?_, ?_, ?_⟩
      · intro l loop
        cases loop
      · rw [new]
        exact Journal.holdsFor_new spec.name
      · apply List.ext_getElem?
        intro i
        rw [List.getElem?_mapIdx]
        cases first.signals[i]? <;> rfl
  | on event lives taken ih =>
      exact ih.happening lives.stands lives.same.1 printable (happening_of_happen taken)

/-- Once asked to stop, a worker is not started again. -/
theorem Lives.stopped_of_ask (lives : Lives client { spec, stopTimeout } first past w world)
    (ask : ∃ x ∈ past, x.event = .ask) : w.state = .stopped := by
  induction lives with
  | here =>
      obtain ⟨x, member, -⟩ := ask
      cases member
  | on event _ taken ih =>
      have happening := happening_of_happen taken
      obtain ⟨x, member, ask⟩ := ask
      rcases List.mem_append.1 member with old | last
      · have stopped := ih ⟨x, old, ask⟩
        exact (happening.onward.resolve_right fun onward => onward.ne_stopped stopped).trans stopped
      · obtain rfl := List.mem_singleton.1 last
        obtain rfl : event = .ask := ask
        exact happening.of_ask.1

end Life

theorem calls_of_unexpected {m : Message} (refused : spec.admits m.payload = false) :
    spec.calls m = false := by
  rw [WorkerSpec.calls, refused, Bool.false_and]

/-- On a payload that is not expected, the handler has no say. -/
theorem react_of_unexpected (handler : Option Handler) {m : Message}
    (refused : spec.admits m.payload = false) (earlier : Nat) :
    WorkerSpec.react { spec with handler } earlier m =
      { verdict := .error (spec.unexpectedReason m.payload) } := by
  have admits : WorkerSpec.admits { spec with handler } m.payload = false := refused
  unfold WorkerSpec.react
  rw [if_neg (by rw [admits]; exact Bool.false_ne_true)]
  rfl

theorem failure?_isSome {verdict : Verdict} (printable : ∀ text, verdict ≠ .unprintable text) :
    verdict.failure?.isSome = true ↔ verdict ≠ .ok := by
  constructor
  · rintro bad rfl
    cases bad
  · intro bad
    by_contra none
    rw [Bool.not_eq_true, Option.isSome_eq_false_iff, Option.isNone_iff_eq_none] at none
    exact bad (Verdict.eq_ok_of_failure? none printable)

/-- A delivery fails if its payload is not expected, or else if the handler says so. -/
theorem failure?_react_isSome (printable : spec.Printable) (earlier : Nat) (m : Message) :
    (spec.react earlier m).verdict.failure?.isSome = true ↔ spec.admits m.payload = false ∨
      ∃ handler, spec.handler = some handler ∧ (handler spec.name earlier m).verdict ≠ .ok := by
  have text := printable earlier m
  unfold WorkerSpec.react at text ⊢
  cases admitted : spec.admits m.payload with
  | false => exact iff_of_true rfl (.inl rfl)
  | true =>
      rw [admitted] at text
      cases given : spec.handler with
      | none => exact iff_of_false nofun (by simp)
      | some handler =>
          rw [given] at text
          refine (failure?_isSome text).trans ⟨fun bad => .inr ⟨handler, rfl, bad⟩, ?_⟩
          rintro (other | ⟨handler', same, bad⟩)
          · cases other
          · cases same
            exact bad

/-- What a worker has on record, and what it has counted, after such a past and whatever comes
next. -/
structure Bookkeeping (client : Client σ) (spec : WorkerSpec) (first : World σ)
    (past : List (Moment σ)) (w : Worker) (world : World σ) : Prop where
  /-- Everything that has been received is on record, in order, but for the message in hand; one
  that was in hand when the loop was aborted is lost. -/
  recorded : ∃ lost, received client past =
    (recordings past).map Run.Recording.message ++ w.inHand ++ lost ∧
      lost.length ≤ 1 ∧ (lost ≠ [] → w.ending? = some .aborted)
  observed : Shards.of world.journal.observed spec.name =
    (recordings past).map Run.Recording.observation
  /-- The snapshot shows it in this order, unless the numbers have come round. -/
  shown : (world.journal.snapshot.observationsFor spec.name).Perm
      ((recordings past).map Run.Recording.observation) ∧
    (world.journal.size ≤ Word.limit → world.journal.snapshot.observationsFor spec.name =
      (recordings past).map Run.Recording.observation)
  /-- Every delivery on record has been counted, but for one that is about to be. -/
  counted : Worker.counted past ++ w.uncounted = (recordings past).map Run.Recording.message
  countedOn : ∀ x ∈ past, ∀ m, x.counted? = some m → x.countedOn? = spec.signal
  signals : world.signals = first.signals.mapIdx fun id s =>
    { s with count := s.count - countDowns past id }
  /-- Every delivery on record that failed has been blamed, but for one that is about to be. -/
  blamed : failures past ++ w.unblamed = (recordings past).filterMap Run.Recording.failure?
  failed : Shards.of world.journal.failed spec.name = failures past ∧
    (world.journal.handlerFailures.filter fun f => f.worker == spec.name).Perm (failures past)
  /-- The handler has been called on those of the messages whose payload is expected. -/
  judged : ∀ i d, (recordings past)[i]? = some d →
    let earlier := ((received client past).take i).countP spec.calls
    d.verdict = (spec.react earlier d.message).verdict ∧
      (d.failure?.isSome = true ↔ spec.admits d.message.payload = false ∨
        ∃ handler, spec.handler = some handler ∧
          (handler spec.name earlier d.message).verdict ≠ .ok)
  calls : ∀ l, w.loop = some l → l.calls = (received client past).countP spec.calls
  /-- Whatever the handler, it has no say on any other payload. -/
  spared : ∀ m, spec.admits m.payload = false → spec.calls m = false ∧ ∀ handler earlier,
    WorkerSpec.react { spec with handler } earlier m =
      { verdict := .error (spec.unexpectedReason m.payload) }
  /-- An abort loses the delivery in hand, and nothing else. -/
  aborts : ∀ w' world', w.happen client world .abort = some (w', world') →
    world' = world ∧ w.uncounted = [] ∧ w.unblamed = [] ∧
      ∀ later w'' world'', Lives client w' world' later w'' world'' → Silent later
  /-- After a request to stop, at most the delivery in hand is still put on record. -/
  asked : (∃ x ∈ past, x.event = .ask) → ∀ later w' world', Lives client w world later w' world' →
    (recordings later).map Run.Recording.message <+: w.inHand
  /-- After a stop that has come to its end, nothing is. -/
  stopped : (∃ x ∈ past, x.isStop client = true) → w.uncounted = [] ∧ w.unblamed = [] ∧
    ∀ later w' world', Lives client w world later w' world' → Silent later

section Main

variable {first : World σ} {stopTimeout : Duration}

theorem Kept.recorded (kept : Kept client spec first past w world) :
    ∃ lost, received client past =
      (recordings past).map Run.Recording.message ++ w.inHand ++ lost ∧
        lost.length ≤ 1 ∧ (lost ≠ [] → w.ending? = some .aborted) := by
  rw [inHand_eq]
  cases loop : w.loop with
  | none =>
      have blank := kept.idle loop
      exact ⟨[], by rw [blank.received, blank.recordings]; rfl, Nat.zero_le 1, absurd rfl⟩
  | some l =>
      obtain ⟨lost, taken, few, aborted⟩ := (kept.busy l loop).taken
      refine ⟨lost, taken, few, ?_⟩
      intro some
      simp [ending?, loop, Loop.ending?, aborted some]

theorem Kept.counted (kept : Kept client spec first past w world) :
    Worker.counted past ++ w.uncounted = (recordings past).map Run.Recording.message := by
  unfold uncounted
  cases loop : w.loop with
  | none =>
      have blank := kept.idle loop
      rw [blank.counted, blank.recordings]
      rfl
  | some l => exact (kept.busy l loop).counted

theorem Kept.blamed (kept : Kept client spec first past w world) :
    failures past ++ w.unblamed = (recordings past).filterMap Run.Recording.failure? := by
  unfold unblamed
  cases loop : w.loop with
  | none =>
      have blank := kept.idle loop
      rw [blank.failures, blank.recordings]
      rfl
  | some l => exact (kept.busy l loop).blamed

theorem Kept.judged (kept : Kept client spec first past w world) {i : Nat} {d : Run.Recording}
    (there : (recordings past)[i]? = some d) :
    d.verdict =
      (spec.react (((received client past).take i).countP spec.calls) d.message).verdict := by
  obtain ⟨lost, taken, -⟩ := kept.recorded
  have inside := (List.getElem?_eq_some_iff.1 there).1
  have earlier : (received client past).take i =
      ((recordings past).take i).map Run.Recording.message := by
    rw [taken, List.append_assoc, List.take_append_of_le_length
      (by rw [List.length_map]; exact Nat.le_of_lt inside), List.map_take]
  rw [earlier, List.countP_map]
  cases loop : w.loop with
  | none =>
      rw [(kept.idle loop).recordings] at there
      cases there
  | some l => exact (kept.busy l loop).judged i d there

theorem Moment.exists_of_counted? {x : Moment σ} {m : Message} (counts : x.counted? = some m) :
    ∃ l, x.event = .step ∧ x.before.loop = some l ∧ l.phase = .recorded m := by
  unfold counted? loop? at counts
  split at counts
  · cases counts
  · rename_i l mover
    split at mover
    · rename_i event
      split at counts
      · rename_i m' phase
        cases counts
        exact ⟨l, event, mover, phase⟩
      · cases counts
    · cases mover

theorem Lives.countedOn (lives : Lives client { spec, stopTimeout } first past w world)
    (new : first.journal = {}) (printable : spec.Printable) {x : Moment σ} (member : x ∈ past)
    {m : Message} (counts : x.counted? = some m) : x.countedOn? = spec.signal := by
  obtain ⟨l, step, loop, phase⟩ := Moment.exists_of_counted? counts
  obtain ⟨earlier, -, -, lives', -⟩ := lives.exists_of_mem member
  have told := ((lives'.kept new printable).busy l loop).told
  obtain ⟨before, beforeWorld, event⟩ := x
  obtain rfl : event = .step := step
  have mover : (⟨before, beforeWorld, .step⟩ : Moment σ).loop? = some l := loop
  simp only [Moment.countedOn?, mover, phase, Option.bind_some, told]

theorem bookkeeping_is_exact (new : first.journal = {}) (printable : spec.Printable)
    (lives : Lives client { spec, stopTimeout } first past w world) :
    Bookkeeping client spec first past w world := by
  have kept := lives.kept new printable
  have stands := lives.stands
  constructor
  · exact kept.recorded
  · exact kept.journal.observed
  · exact kept.journal.observationsFor
  · exact kept.counted
  · exact fun x member m counts => lives.countedOn new printable member counts
  · exact kept.signals
  · exact kept.blamed
  · exact ⟨kept.journal.failed, kept.journal.handlerFailures⟩
  · intro i d there earlier
    have verdict := kept.judged there
    refine ⟨verdict, ?_⟩
    unfold Run.Recording.failure?
    rw [Option.isSome_map, verdict]
    exact failure?_react_isSome printable _ _
  · exact fun l loop => (kept.busy l loop).calls
  · intro m refused
    exact ⟨calls_of_unexpected refused, fun handler => react_of_unexpected handler refused⟩
  · intro w' world' taken
    cases happening_of_happen taken with
    | aborted aborted =>
        have still := stands.still_of_abort aborted
        obtain ⟨l, loop, waits, rfl⟩ := exists_loop_of_abort? aborted
        refine ⟨rfl, ?_, ?_, fun later w'' world'' goesOn => (still.silent goesOn).2⟩
        · rcases waits with phase | ⟨m, reaction, phase⟩ <;>
            simp [uncounted, Loop.uncounted, loop, phase]
        · rcases waits with phase | ⟨m, reaction, phase⟩ <;>
            simp [unblamed, Loop.blame?, loop, phase]
  · intro ask later w' world' goesOn
    obtain ⟨-, hand⟩ := (stands.winding (lives.stopped_of_ask ask)).records goesOn
    exact (List.prefix_append _ _).trans hand
  · intro stop
    obtain ⟨stopped, given⟩ := lives.over stop
    have still := stands.still stopped given
    exact ⟨still.settled.1, still.settled.2, fun later w' world' goesOn => (still.silent goesOn).2⟩

end Main

/-- A worker that expects one payload, and whose handler panics on every call but the first. -/
def fussySpec : WorkerSpec where
  name := "a"
  handler := some fun _ earlier _ =>
    { verdict := if earlier = 0 then .ok else .panic (some "again") }
  signal := some 0
  expected := ["note"]

/-- It is given three messages, of which the second is not expected, and stopped. -/
def fussyEvents : List (Event Broker) :=
  let messages : List Message :=
    [⟨.ofNat 0, "note", none⟩, ⟨.ofNat 1, "odd", none⟩, ⟨.ofNat 2, "note", none⟩]
  let broker := messages.foldl (fun b m => (b.publish "orders" m).2)
    (({} : Broker).subscribe auditTarget).2
  [.start auditTarget, .others (.dealt broker)] ++ List.replicate 12 .step
    ++ [.ask, .step, .part (.ended .finished)]

theorem bookkeeping_of_a_fussy_handler :
    let worker : Worker := { spec := fussySpec, stopTimeout := .ofSecs 5 }
    let first : World Broker := { broker := {}, signals := [.fresh 5] }
    let past := moments Broker.client worker first fussyEvents
    first.journal = {} ∧ fussySpec.Printable ∧ ∃ w world,
      Lives Broker.client worker first past w world ∧
      (recordings past).length = 3 ∧ (failures past).length = 2 ∧
      Shards.of world.journal.observed "a" = (recordings past).map Run.Recording.observation ∧
      Shards.of world.journal.failed "a" = failures past ∧
      Worker.counted past = (recordings past).map Run.Recording.message := by
  intro worker first past
  have new : first.journal = {} := rfl
  have printable : fussySpec.Printable := by
    intro earlier m text
    unfold WorkerSpec.react
    split
    · show (if earlier = 0 then Verdict.ok else .panic (some "again")) ≠ _
      split <;> nofun
    · nofun
  have come : (worker.happenAll Broker.client first fussyEvents).isSome = true := by
    decide +kernel
  obtain ⟨⟨w, world⟩, run⟩ := Option.isSome_iff_exists.1 come
  have lives : Lives Broker.client worker first past w world := Lives.here.all run
  have books := bookkeeping_is_exact new printable lives
  have stop : past.any (Moment.isStop Broker.client) = true := by decide +kernel
  obtain ⟨settled, -⟩ := books.stopped (List.any_eq_true.1 stop)
  have counted := books.counted
  rw [settled, List.append_nil] at counted
  exact ⟨new, printable, w, world, lives, by decide +kernel, by decide +kernel, books.observed,
    books.failed.1, counted⟩

end Worker

end DeliveryBench
