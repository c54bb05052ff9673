import DeliveryBench.Proofs.Run.Underway
import DeliveryBench.Proofs.Run.Wait
import DeliveryBench.Proofs.Worker.Happening

/-!
# What a delivery loop has done so far

A delivery is recorded, blamed on the handler if it failed, and counted, in this order. `Tally` ties
what a loop has done so far to the messages that it has received: what is missing is what the loop
has in hand (`Loop.inHand`), is to blame next (`Loop.blame?`) or has not counted yet
(`Loop.uncounted`). Every move of a loop keeps this up (`Tally.move`), and so does whatever else
happens to its worker (`Kept.happening`).

Caveat: a handler's error of which no text can be made breaks the loop down halfway, so such errors
are left out (`WorkerSpec.Printable`).
-/

namespace DeliveryBench

variable {σ : Type}

/-- Of every error of its handler a text can be made. -/
def WorkerSpec.Printable (spec : WorkerSpec) : Prop :=
  ∀ earlier m text, (spec.react earlier m).verdict ≠ .unprintable text

/-- The message that was delivered. -/
def Run.Recording.message (d : Run.Recording) : Message :=
  d.observation.message

/-- The handler failure that a delivery leads to, if it failed. -/
def Run.Recording.failure? (d : Run.Recording) : Option HandlerFailure :=
  d.verdict.failure?.map d.failure

namespace Loop

/-- The message that is being handled. -/
def inHand (l : Loop) : List Message :=
  match l.phase with
  | .handling m _ => [m]
  | _ => []

/-- The delivery that is on record and not counted yet. -/
def uncounted (l : Loop) : List Message :=
  match l.phase with
  | .observed m _ _ | .recorded m => [m]
  | _ => []

end Loop

namespace Worker

def uncounted (w : Worker) : List Message :=
  (w.loop.map Loop.uncounted).getD []

/-- The failure that is to be put on record next. -/
def unblamed (w : Worker) : List HandlerFailure :=
  (w.loop.bind Loop.blame?).toList

theorem inHand_eq (w : Worker) : w.inHand = (w.loop.map Loop.inHand).getD [] := by
  unfold inHand
  cases w.loop <;> rfl

variable {client : Client σ} {w w' : Worker} {world world' : World σ} {event : Event σ}
  {past : List (Moment σ)} {spec : WorkerSpec} {calls : List Deed}

/-! ## Reading the past -/

theorem filterMap_snoc {α β : Type} (f : α → Option β) (xs : List α) (x : α) :
    (xs ++ [x]).filterMap f = xs.filterMap f ++ (f x).toList := by
  rw [List.filterMap_append]
  cases read : f x <;> simp [read]

section Reading

variable (client) (past) (x : Moment σ)

theorem received_snoc :
    received client (past ++ [x]) = received client past ++ (x.received? client).toList :=
  filterMap_snoc _ past x

theorem recordings_snoc : recordings (past ++ [x]) = recordings past ++ x.recording?.toList :=
  filterMap_snoc _ past x

theorem failures_snoc : failures (past ++ [x]) = failures past ++ x.failure?.toList :=
  filterMap_snoc _ past x

theorem counted_snoc : counted (past ++ [x]) = counted past ++ x.counted?.toList :=
  filterMap_snoc _ past x

end Reading

/-- At a moment at which the loop does nothing, there is nothing to read. -/
theorem reads_snoc_of_aside (client : Client σ) (past : List (Moment σ)) {x : Moment σ}
    (aside : x.loop? = none) :
    received client (past ++ [x]) = received client past ∧
      recordings (past ++ [x]) = recordings past ∧ failures (past ++ [x]) = failures past ∧
      Worker.counted (past ++ [x]) = Worker.counted past := by
  rw [received_snoc, recordings_snoc, failures_snoc, counted_snoc]
  simp [Moment.received?, Moment.polled?, Moment.recording?, Moment.failure?, Moment.counted?, aside]

/-! ## One loop -/

/-- The same loop, though it may have been told to stop meanwhile. -/
structure SameLoop (l l' : Loop) : Prop where
  spec : l'.spec = l.spec
  calls : l'.calls = l.calls
  phase : l'.phase = l.phase
  asked : l.stopRequested = true → l'.stopRequested = true

theorem sameLoop_refl (l : Loop) : SameLoop l l :=
  ⟨rfl, rfl, rfl, id⟩

/-- Being asked to stop leaves a loop where it is. -/
theorem beginStop_loop {waits : Bool} (begun : w.beginStop = (waits, w')) :
    (w'.loop = none → w.loop = none) ∧
      ∀ l', w'.loop = some l' → ∃ l, w.loop = some l ∧ SameLoop l l' := by
  unfold beginStop at begun
  split at begun
  · cases begun
    exact ⟨fun none => none, fun l' loop => ⟨l', loop, sameLoop_refl l'⟩⟩
  · cases begun
    exact ⟨fun none => none, fun l' loop => ⟨l', loop, sameLoop_refl l'⟩⟩
  · cases begun
    exact ⟨fun none => none, fun l' loop => ⟨l', loop, sameLoop_refl l'⟩⟩
  · cases begun
    refine ⟨Option.map_eq_none_iff.1, ?_⟩
    intro l' loop
    rcases Option.map_eq_some_iff.1 loop with ⟨l, there, rfl⟩
    exact ⟨l, there, rfl, rfl, rfl, fun _ => rfl⟩

/-- What a step puts on record, blames and counts is what the loop had in hand, or has in hand
afterwards. -/
structure Balanced (client : Client σ) (l : Loop) (x : Moment σ) (l' : Loop) : Prop where
  taken : l.inHand ++ (x.received? client).toList =
    (x.recording?.map Run.Recording.message).toList ++ l'.inHand
  blamed : l.blame?.toList ++ (x.recording?.bind Run.Recording.failure?).toList =
    x.failure?.toList ++ l'.blame?.toList
  counted : l.uncounted ++ (x.recording?.map Run.Recording.message).toList =
    x.counted?.toList ++ l'.uncounted

section Balanced

attribute [local simp] Moment.received? Moment.polled? Moment.recording? Moment.failure?
  Moment.counted? Loop.inHand Loop.blame? Loop.uncounted

theorem balanced {l l' : Loop} (loop : w.loop = some l)
    (move : Loop.Move client l world l' world')
    (printable : ∀ m sequence text, l.phase ≠ .observed m sequence (.unprintable text)) :
    Balanced client l ⟨w, world, .step⟩ l' := by
  have mover : (⟨w, world, .step⟩ : Moment σ).loop? = some l := loop
  cases move with
  | stopped phase stop => constructor <;> simp [mover, phase, stop]
  | took phase stop answer => constructor <;> simp [mover, phase, stop, answer, Loop.take]
  | deserted phase stop answer | broke phase stop answer =>
      constructor <;> simp [mover, phase, stop, answer]
  | @observed m reaction phase =>
      constructor
      · simp [mover, phase, Run.Recording.message, Observation.message]
      · simp [mover, phase, Run.Recording.failure?]
        rfl
      · simp [mover, phase, Run.Recording.message, Observation.message]
  | collapsed phase => exact absurd phase (printable _ _ _)
  | passed phase => constructor <;> simp [mover, phase, Verdict.failure?]
  | failed phase bad => constructor <;> simp [mover, phase, bad]
  | counted phase => constructor <;> simp [mover, phase]

end Balanced

/-- What a loop has done so far agrees with the messages that it has received. -/
structure Tally (client : Client σ) (spec : WorkerSpec) (past : List (Moment σ)) (l : Loop) :
    Prop where
  told : l.spec = spec
  calls : l.calls = (received client past).countP spec.calls
  /-- A message on which the loop was aborted is lost. -/
  taken : ∃ lost, received client past =
    (recordings past).map Run.Recording.message ++ l.inHand ++ lost ∧
      lost.length ≤ 1 ∧ (lost ≠ [] → l.phase = .ended .aborted)
  blamed : failures past ++ l.blame?.toList =
    (recordings past).filterMap Run.Recording.failure?
  counted : Worker.counted past ++ l.uncounted = (recordings past).map Run.Recording.message
  named : ∀ d ∈ recordings past, d.observation.worker = spec.name
  /-- Every verdict is that of the handler, on the messages up to its own. -/
  judged : ∀ i d, (recordings past)[i]? = some d → d.verdict =
    (spec.react (((recordings past).take i).countP fun d => spec.calls d.message) d.message).verdict
  reaction : ∀ m reaction, l.phase = .handling m reaction →
    reaction = spec.react ((recordings past).countP fun d => spec.calls d.message) m
  printable : ∀ m sequence text, l.phase ≠ .observed m sequence (.unprintable text)

section Tally

variable {l l' : Loop}

theorem tally_new (ticket : Ticket) (nothing : received client past = [])
    (blank : recordings past = [] ∧ failures past = [] ∧ counted past = []) :
    Tally client spec past { spec, ticket } := by
  obtain ⟨unrecorded, blameless, uncounted⟩ := blank
  constructor
  · rfl
  · rw [nothing]
    rfl
  · exact ⟨[], by rw [nothing, unrecorded]; rfl, Nat.zero_le 1, absurd rfl⟩
  · rw [blameless, unrecorded]
    rfl
  · rw [uncounted, unrecorded]
    rfl
  · rw [unrecorded]
    exact nofun
  · rw [unrecorded]
    exact nofun
  · exact nofun
  · exact nofun

/-- A message that is received is handled next. -/
theorem Loop.Move.received (loop : w.loop = some l) (move : Loop.Move client l world l' world') :
    (⟨w, world, .step⟩ : Moment σ).received? client = none ∧ l'.calls = l.calls ∨
    ∃ m, (⟨w, world, .step⟩ : Moment σ).received? client = some m ∧
      (∀ ending, l.phase ≠ .ended ending) ∧
      l'.calls = l.calls + if l.spec.calls m then 1 else 0 := by
  have mover : (⟨w, world, .step⟩ : Moment σ).loop? = some l := loop
  cases move with
  | @took m broker phase stop answer =>
      refine .inr ⟨m, ?_, by simp [phase], ?_⟩
      · simp [Moment.received?, Moment.polled?, mover, phase, stop, answer]
      · unfold Loop.take
        dsimp only
        split <;> rfl
  | stopped phase stop =>
      exact .inl ⟨by simp [Moment.received?, Moment.polled?, mover, phase, stop], rfl⟩
  | deserted phase stop answer | broke phase stop answer =>
      exact .inl ⟨by simp [Moment.received?, Moment.polled?, mover, phase, stop, answer], rfl⟩
  | observed phase | collapsed phase | passed phase | failed phase | counted phase =>
      exact .inl ⟨by simp [Moment.received?, Moment.polled?, mover, phase], rfl⟩

/-- Only a message whose handling is through is put on record. -/
theorem Loop.Move.recorded (loop : w.loop = some l) (move : Loop.Move client l world l' world') :
    (⟨w, world, .step⟩ : Moment σ).recording? = none ∧
      (∀ m sequence verdict, l'.phase = .observed m sequence verdict → False) ∨
    ∃ m reaction, l.phase = .handling m reaction ∧
      l'.phase = .observed m world.journal.next reaction.verdict ∧
      (⟨w, world, .step⟩ : Moment σ).recording? = some
        ⟨⟨l.spec.name, m.id, m.payload, m.key, world.journal.next⟩, reaction.verdict⟩ := by
  have mover : (⟨w, world, .step⟩ : Moment σ).loop? = some l := loop
  cases move with
  | @observed m reaction phase =>
      exact .inr ⟨m, reaction, phase, rfl, by simp [Moment.recording?, mover, phase]⟩
  | stopped phase | took phase | deserted phase | broke phase | collapsed phase | passed phase
  | failed phase | counted phase =>
      exact .inl ⟨by simp [Moment.recording?, mover, phase], nofun⟩

/-- While nothing is in hand and the loop goes on, everything that has been received is on
record. -/
theorem Tally.received_eq (tally : Tally client spec past l) (idle : l.phase = .idle) :
    received client past = (recordings past).map Run.Recording.message := by
  obtain ⟨lost, taken, -, aborted⟩ := tally.taken
  have none : lost = [] := by
    by_contra some
    cases idle.symm.trans (aborted some)
  rw [taken, none]
  simp [Loop.inHand, idle]

theorem Tally.move (tally : Tally client spec past l) (printable : spec.Printable)
    (loop : w.loop = some l) (move : Loop.Move client l world l' world') :
    Tally client spec (past ++ [⟨w, world, .step⟩]) l' := by
  have balance := balanced loop move tally.printable
  have goesOn : ∀ ending, l.phase ≠ .ended ending := move.unended
  have through := Loop.Move.recorded loop move
  constructor
  · exact move.same.1.trans tally.told
  · rw [received_snoc, List.countP_append, ← tally.calls]
    rcases Loop.Move.received loop move with ⟨none, same⟩ | ⟨m, some, -, more⟩
    · rw [none, same]
      rfl
    · rw [some, more, tally.told, Option.toList_some, List.countP_singleton]
  · obtain ⟨lost, taken, -, aborted⟩ := tally.taken
    have kept : lost = [] := by
      by_contra some
      exact goesOn _ (aborted some)
    refine ⟨[], ?_, Nat.zero_le 1, absurd rfl⟩
    rw [received_snoc, recordings_snoc, taken, kept, List.append_nil, List.append_nil,
      List.append_assoc, balance.taken, List.map_append, List.append_assoc]
    cases (⟨w, world, .step⟩ : Moment σ).recording? <;> rfl
  · rw [failures_snoc, recordings_snoc, List.append_assoc, ← balance.blamed, ← List.append_assoc,
      tally.blamed, List.filterMap_append]
    cases recorded : (⟨w, world, .step⟩ : Moment σ).recording? with
    | none => rfl
    | some d => cases failed : d.failure? <;> simp [failed]
  · rw [counted_snoc, recordings_snoc, List.append_assoc, ← balance.counted, ← List.append_assoc,
      tally.counted, List.map_append]
    cases (⟨w, world, .step⟩ : Moment σ).recording? <;> rfl
  · intro d member
    rw [recordings_snoc] at member
    rcases List.mem_append.1 member with old | new
    · exact tally.named d old
    · rcases through with ⟨none, -⟩ | ⟨m, reaction, -, -, recorded⟩
      · rw [none] at new
        cases new
      · rw [recorded] at new
        obtain rfl := List.mem_singleton.1 new
        exact congrArg WorkerSpec.name tally.told
  · intro i d there
    rw [recordings_snoc] at there ⊢
    rcases through with ⟨none, -⟩ | ⟨m, reaction, phase, -, recorded⟩
    · rw [none, Option.toList_none, List.append_nil] at there ⊢
      exact tally.judged i d there
    · rw [recorded, Option.toList_some] at there ⊢
      rcases Group.getElem?_concat_cases there with old | ⟨rfl, rfl⟩
      · have inside := (List.getElem?_eq_some_iff.1 old).1
        rw [List.take_append_of_le_length (Nat.le_of_lt inside)]
        exact tally.judged i d old
      · rw [List.take_left]
        exact congrArg Reaction.verdict (tally.reaction m reaction phase)
  · intro m reaction phase'
    rcases through with ⟨none, -⟩ | ⟨_, _, -, observed, -⟩
    · rw [recordings_snoc, none, Option.toList_none, List.append_nil]
      cases move with
      | took phase =>
          cases phase'
          rw [tally.told, tally.calls, tally.received_eq phase, List.countP_map]
          rfl
      | stopped | deserted | broke | observed | collapsed | passed | failed | counted =>
          cases phase'
    · cases observed.symm.trans phase'
  · intro m sequence text phase'
    rcases through with ⟨-, other⟩ | ⟨m', reaction, phase, observed, -⟩
    · exact other _ _ _ phase'
    · obtain ⟨-, -, verdict⟩ := Phase.observed.inj (observed.symm.trans phase')
      rw [tally.reaction m' reaction phase] at verdict
      exact printable _ _ _ verdict

/-- The loop stays where it is, whatever it has been told meanwhile. -/
theorem Tally.aside {x : Moment σ} (tally : Tally client spec past l) (aside : x.loop? = none)
    (same : SameLoop l l') : Tally client spec (past ++ [x]) l' := by
  obtain ⟨told, calls, phase, -⟩ := same
  obtain ⟨received, recordings, failures, counted⟩ := reads_snoc_of_aside client past aside
  have inHand : l'.inHand = l.inHand := by rw [Loop.inHand, phase, Loop.inHand]
  have blame : l'.blame? = l.blame? := by rw [Loop.blame?, phase, told, Loop.blame?]
  have left : l'.uncounted = l.uncounted := by rw [Loop.uncounted, phase, Loop.uncounted]
  constructor
  · exact told.trans tally.told
  · rw [calls, received]
    exact tally.calls
  · rw [received, recordings, inHand, phase]
    exact tally.taken
  · rw [failures, recordings, blame]
    exact tally.blamed
  · rw [counted, recordings, left]
    exact tally.counted
  · rw [recordings]
    exact tally.named
  · rw [recordings]
    exact tally.judged
  · rw [recordings, phase]
    exact tally.reaction
  · rw [phase]
    exact tally.printable

/-- A loop that is aborted loses what it has in hand, and nothing else. -/
theorem Tally.abort (tally : Tally client spec past l)
    (waits : l.phase = .idle ∨ ∃ m reaction, l.phase = .handling m reaction) :
    Tally client spec past { l with phase := .ended .aborted } where
  told := tally.told
  calls := tally.calls
  taken := by
    obtain ⟨lost, taken, -, aborted⟩ := tally.taken
    have none : lost = [] := by
      by_contra some
      rcases waits with phase | ⟨m, reaction, phase⟩ <;> cases phase.symm.trans (aborted some)
    refine ⟨l.inHand, ?_, ?_, fun _ => rfl⟩
    · rw [taken, none, List.append_nil]
      exact congrArg (· ++ l.inHand) (List.append_nil _).symm
    · rcases waits with phase | ⟨m, reaction, phase⟩ <;> simp [Loop.inHand, phase]
  blamed := by
    rw [← tally.blamed]
    rcases waits with phase | ⟨m, reaction, phase⟩ <;> simp [Loop.blame?, phase]
  counted := by
    rw [← tally.counted]
    rcases waits with phase | ⟨m, reaction, phase⟩ <;> simp [Loop.uncounted, phase]
  named := tally.named
  judged := tally.judged
  reaction := nofun
  printable := nofun

end Tally

/-! ## A whole life -/

/-- Nothing has been received, let alone put on record. -/
structure Blank (client : Client σ) (past : List (Moment σ)) : Prop where
  received : received client past = []
  recordings : recordings past = []
  failures : failures past = []
  counted : counted past = []

/-- What is on record of a worker, and what has been counted, after such a past. -/
structure Kept (client : Client σ) (spec : WorkerSpec) (first : World σ) (past : List (Moment σ))
    (w : Worker) (world : World σ) : Prop where
  idle : w.loop = none → Blank client past
  busy : ∀ l, w.loop = some l → Tally client spec past l
  journal : world.journal.HoldsFor spec.name
    ((recordings past).map Run.Recording.observation) (failures past)
  signals : world.signals = first.signals.mapIdx fun id s =>
    { s with count := s.count - countDowns past id }

section Kept

variable {first : World σ} {new : List Deed} {answer : Option (Except Failure Unit)}

theorem Blank.aside {x : Moment σ} (blank : Blank client past) (aside : x.loop? = none) :
    Blank client (past ++ [x]) := by
  obtain ⟨received, recordings, failures, counted⟩ := reads_snoc_of_aside client past aside
  exact ⟨received.trans blank.received, recordings.trans blank.recordings,
    failures.trans blank.failures, counted.trans blank.counted⟩

/-- Whatever happens, the signal that it is counted on goes down. -/
theorem Happening.signals (happening : Happening client w world event new answer w' world') :
    world'.signals = (world.countDown (⟨w, world, event⟩ : Moment σ).countedOn?).signals := by
  cases happening with
  | joined | turnedAway | refused | hollow | asked | marked | aborted | parted => rfl
  | @elsewhere doing => cases doing <;> rfl
  | @moved l l' world' loop move =>
      have mover : (⟨w, world, .step⟩ : Moment σ).loop? = some l := loop
      cases move with
      | counted phase => simp [Moment.countedOn?, mover, phase]
      | stopped phase | took phase | deserted phase | broke phase | observed phase | collapsed phase
      | passed phase | failed phase =>
          simp [Moment.countedOn?, mover, phase, World.countDown, World.withBroker]

theorem Kept.signals_snoc (kept : Kept client spec first past w world)
    (happening : Happening client w world event new answer w' world') :
    world'.signals = first.signals.mapIdx fun id s =>
      { s with count := s.count - countDowns (past ++ [⟨w, world, event⟩]) id } := by
  rw [happening.signals, Run.signals_countDown kept.signals]
  simp only [countDowns, List.countP_append, List.countP_singleton, beq_iff_eq]

/-- A step of the loop writes what it is seen to write. -/
theorem Kept.journal_of_move (kept : Kept client spec first past w world) {l l' : Loop}
    (loop : w.loop = some l) (move : Loop.Move client l world l' world') :
    world'.journal.HoldsFor spec.name
      ((recordings (past ++ [⟨w, world, .step⟩])).map Run.Recording.observation)
      (failures (past ++ [⟨w, world, .step⟩])) := by
  have mover : (⟨w, world, .step⟩ : Moment σ).loop? = some l := loop
  have told := (kept.busy l loop).told
  rw [recordings_snoc, failures_snoc, List.map_append]
  cases move with
  | @observed m reaction phase =>
      have holds := kept.journal.record l.spec.name m
      rw [if_pos (by rw [told])] at holds
      simpa [Moment.recording?, Moment.failure?, Loop.blame?, mover, phase] using holds
  | @failed m sequence verdict reason phase bad =>
      have holds := kept.journal.recordFailure l.spec.name m sequence reason
      rw [if_pos (by rw [told])] at holds
      simpa [Moment.recording?, Moment.failure?, Loop.blame?, mover, phase, bad] using holds
  | passed phase =>
      simpa [Moment.recording?, Moment.failure?, Loop.blame?, mover, phase, Verdict.failure?]
        using kept.journal
  | collapsed phase =>
      simpa [Moment.recording?, Moment.failure?, Loop.blame?, mover, phase, Verdict.failure?]
        using kept.journal
  | stopped phase | took phase | deserted phase | broke phase | counted phase =>
      simpa [Moment.recording?, Moment.failure?, Loop.blame?, mover, phase, World.withBroker]
        using kept.journal

/-- What others write is not under this worker's name. -/
theorem Kept.journal_of_elsewhere (kept : Kept client spec first past w world)
    {doing : Elsewhere σ} (other : doing.recorder? ≠ some spec.name) :
    (doing.apply world).journal.HoldsFor spec.name
      ((recordings past).map Run.Recording.observation) (failures past) := by
  cases doing with
  | recorded worker m =>
      have holds := kept.journal.record worker m
      rwa [if_neg fun same => other (congrArg some same), List.append_nil] at holds
  | failed worker m sequence reason =>
      have holds := kept.journal.recordFailure worker m sequence reason
      rwa [if_neg fun same => other (congrArg some same), List.append_nil] at holds
  | counted id =>
      show (world.countDown (some id)).journal.HoldsFor _ _ _
      rw [World.countDown_journal]
      exact kept.journal
  | opened | dealt => exact kept.journal

/-- Whatever does not concern the loop leaves its records alone. -/
theorem Kept.aside (kept : Kept client spec first past w world)
    (aside : (⟨w, world, event⟩ : Moment σ).loop? = none)
    (idle : w'.loop = none → w.loop = none)
    (busy : ∀ l', w'.loop = some l' → Tally client spec (past ++ [⟨w, world, event⟩]) l')
    (journal : world'.journal.HoldsFor spec.name
      ((recordings past).map Run.Recording.observation) (failures past))
    (signals : world'.signals = first.signals.mapIdx fun id s =>
      { s with count := s.count - countDowns (past ++ [⟨w, world, event⟩]) id }) :
    Kept client spec first (past ++ [⟨w, world, event⟩]) w' world' where
  idle none := (kept.idle (idle none)).aside aside
  busy := busy
  journal := by
    obtain ⟨-, recordings, failures, -⟩ := reads_snoc_of_aside client past aside
    rw [recordings, failures]
    exact journal
  signals := signals

theorem Kept.happening (kept : Kept client spec first past w world) (stands : w.Stands calls)
    (told : w.spec = spec) (printable : spec.Printable)
    (happening : Happening client w world event new answer w' world') :
    Kept client spec first (past ++ [⟨w, world, event⟩]) w' world' := by
  have signals := kept.signals_snoc happening
  have same (aside : (⟨w, world, event⟩ : Moment σ).loop? = none) (l : Loop)
      (loop : w.loop = some l) : Tally client spec (past ++ [⟨w, world, event⟩]) l :=
    (kept.busy l loop).aside aside (sameLoop_refl l)
  cases happening with
  | @joined target _ _ state =>
      obtain ⟨-, -, -, none⟩ := stands.of_created state
      have blank : Blank client (past ++ [⟨w, world, .start target⟩]) := (kept.idle none).aside rfl
      refine kept.aside rfl nofun ?_ kept.journal signals
      rintro l' ⟨⟩
      rw [told]
      exact tally_new _ blank.received ⟨blank.recordings, blank.failures, blank.counted⟩
  | turnedAway | refused | hollow | parted =>
      exact kept.aside rfl (fun none => none) (same rfl) kept.journal signals
  | elsewhere other =>
      exact kept.aside rfl (fun none => none) (same rfl) (kept.journal_of_elsewhere (told ▸ other))
        signals
  | @moved l l' world' loop move =>
      refine ⟨nofun, ?_, kept.journal_of_move loop move, signals⟩
      rintro l'' ⟨⟩
      exact (kept.busy l loop).move printable loop move
  | asked begun | marked _ begun =>
      obtain ⟨idle, busy⟩ := beginStop_loop begun
      refine kept.aside rfl idle ?_ kept.journal signals
      intro l' loop'
      obtain ⟨l, loop, same⟩ := busy l' loop'
      exact (kept.busy l loop).aside rfl same
  | aborted aborted =>
      obtain ⟨l, loop, waits, rfl⟩ := exists_loop_of_abort? aborted
      refine kept.aside rfl nofun ?_ kept.journal signals
      rintro l' ⟨⟩
      exact (same rfl l loop).abort waits

end Kept

end Worker

end DeliveryBench
