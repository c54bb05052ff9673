import DeliveryBench.Proofs.Scenario.Build
import Mathlib.Data.List.TakeWhile

/-!
# Which drafts are accepted

A draft is accepted unless something is wrong with it, and of several things that are wrong the first
one in a fixed order is reported: the topic, the subscription, the workers, their names.
`Draft.Faulty` says what each of these means, without trimming and without searching
(`Draft.build_eq_error_iff`).

`Draft.BuiltInto` says what an accepted draft becomes. Nothing is changed but the signals, and these
only if there is something to wait for and no worker has a signal: one worker with a signal is
enough for all the others to be left without one (`Draft.drafts_are_built_as_they_say`).
-/

namespace DeliveryBench

/-- Nothing is left of a text if it holds nothing but blanks. -/
theorem Text.trim_eq_nil_iff {cs : List Char} :
    trim cs = [] ↔ ∀ c ∈ cs, isBlank c = true := by
  unfold trim
  rw [List.reverse_eq_nil_iff, List.dropWhile_eq_nil_iff]
  constructor
  · intro blank
    rw [← List.dropWhile_eq_nil_iff]
    have first := List.head?_dropWhile_not isBlank cs
    cases left : cs.dropWhile isBlank with
    | nil => rfl
    | cons c rest =>
        rw [left] at first blank
        have here := blank c (by simp)
        simp [here] at first
  · intro blank
    rw [List.dropWhile_eq_nil_iff.2 blank]
    exact fun c member => absurd member List.not_mem_nil

namespace Draft

variable {d : Draft} {s : Scenario}

/-! ## What is wrong with a draft -/

/-- A text is given, and there is something in it besides blanks. -/
def HasText (given : Option String) : Prop :=
  ∃ text, given = some text ∧ ∃ c ∈ text.toList, Text.isBlank c = false

/-- The first thing that is wrong with a draft. -/
inductive Faulty (d : Draft) : DraftFault → Prop
  | topicMissing : ¬ HasText d.topic → Faulty d .topicMissing
  | subscriptionMissing : HasText d.topic → ¬ HasText d.subscription →
    Faulty d .subscriptionMissing
  | workersMissing : HasText d.topic → HasText d.subscription → d.workers = [] →
    Faulty d .workersMissing
  /-- Among the workers before this one, no two have the same name, but one has this one's. -/
  | workerTwice {before after : List WorkerSpec} {w : WorkerSpec} :
    HasText d.topic → HasText d.subscription → d.workers = before ++ w :: after →
    (before.map WorkerSpec.name).Nodup → w.name ∈ before.map WorkerSpec.name →
    Faulty d (.workerTwice w.name)

theorem given_eq_some_iff {s : Option String} {text : String} :
    given s = some text ↔ s = some text ∧ ∃ c ∈ text.toList, Text.isBlank c = false := by
  unfold given
  rw [Option.filter_eq_some_iff]
  apply and_congr_right
  intro _
  rw [Bool.not_eq_true', List.isEmpty_eq_false_iff, Ne, Text.trim_eq_nil_iff]
  simp

theorem given_eq_none_iff {s : Option String} : given s = none ↔ ¬ HasText s := by
  unfold HasText
  simp only [← given_eq_some_iff]
  cases given s <;> simp

section Names

variable {earlier names : List String} {first name : String}

theorem firstRepeated_cons_of_mem (known : first ∈ earlier) :
    firstRepeated earlier (first :: names) = some first := by
  rw [firstRepeated, if_pos (List.contains_iff_mem.2 known)]

theorem firstRepeated_cons_of_not_mem (new : first ∉ earlier) :
    firstRepeated earlier (first :: names) = firstRepeated (first :: earlier) names := by
  rw [firstRepeated, if_neg (mt List.contains_iff_mem.1 new)]

/-- The name that is found has occurred before, and no name in front of it had. -/
theorem firstRepeated_eq_some_iff :
    firstRepeated earlier names = some name ↔
      ∃ before after, names = before ++ name :: after ∧ firstRepeated earlier before = none ∧
        (name ∈ earlier ∨ name ∈ before) := by
  induction names generalizing earlier with
  | nil => simp [firstRepeated]
  | cons first rest ih =>
      by_cases known : first ∈ earlier
      · rw [firstRepeated_cons_of_mem known, Option.some.injEq]
        constructor
        · rintro rfl
          exact ⟨[], rest, rfl, rfl, .inl known⟩
        · rintro ⟨before, after, split, fine, -⟩
          cases before with
          | nil => exact (List.cons.inj split).1
          | cons other others =>
              obtain ⟨rfl, -⟩ := List.cons.inj split
              rw [firstRepeated_cons_of_mem known] at fine
              cases fine
      · rw [firstRepeated_cons_of_not_mem known, ih]
        constructor
        · rintro ⟨before, after, rfl, fine, again⟩
          refine ⟨first :: before, after, rfl, ?_, ?_⟩
          · rwa [firstRepeated_cons_of_not_mem known]
          · rwa [List.mem_cons, or_left_comm, ← or_assoc, ← List.mem_cons]
        · rintro ⟨before, after, split, fine, again⟩
          cases before with
          | nil =>
              obtain ⟨rfl, -⟩ := List.cons.inj split
              exact absurd (again.resolve_right List.not_mem_nil) known
          | cons other others =>
              obtain ⟨rfl, rfl⟩ := List.cons.inj split
              refine ⟨others, after, rfl, ?_, ?_⟩
              · rwa [firstRepeated_cons_of_not_mem known] at fine
              · rwa [List.mem_cons, or_assoc, or_left_comm, ← List.mem_cons]

end Names

/-! ## Faults -/

theorem Faulty.build {fault : DraftFault} (faulty : d.Faulty fault) : d.build = .error fault := by
  unfold Draft.build
  cases faulty with
  | topicMissing missing => rw [given_eq_none_iff.2 missing]
  | subscriptionMissing topic missing =>
      obtain ⟨text, there⟩ := topic
      rw [given_eq_some_iff.2 there, given_eq_none_iff.2 missing]
  | workersMissing topic subscription nobody =>
      obtain ⟨text, there⟩ := topic
      obtain ⟨text', there'⟩ := subscription
      rw [given_eq_some_iff.2 there, given_eq_some_iff.2 there', nobody]
      rfl
  | @workerTwice before after w topic subscription split distinct again =>
      obtain ⟨text, there⟩ := topic
      obtain ⟨text', there'⟩ := subscription
      have crewed : d.workers.isEmpty = false := by simp [split]
      have found : firstRepeated [] (d.workers.map WorkerSpec.name) = some w.name := by
        refine firstRepeated_eq_some_iff.2 ⟨_, after.map WorkerSpec.name, ?_,
          firstRepeated_eq_none_iff.2 ⟨distinct, fun _ _ => List.not_mem_nil⟩, .inr again⟩
        rw [split, List.map_append, List.map_cons]
      rw [given_eq_some_iff.2 there, given_eq_some_iff.2 there', crewed, found]
      rfl

/-- A draft of whose workers no two have the same name, or the first worker whose name is taken. -/
theorem nodup_or_exists_repeated (workers : List WorkerSpec) :
    (workers.map WorkerSpec.name).Nodup ∨
      ∃ before w after, workers = before ++ w :: after ∧ (before.map WorkerSpec.name).Nodup ∧
        w.name ∈ before.map WorkerSpec.name := by
  cases found : firstRepeated [] (workers.map WorkerSpec.name) with
  | none => exact .inl (firstRepeated_eq_none_iff.1 found).1
  | some name =>
      obtain ⟨names, rest, split, fine, again⟩ := firstRepeated_eq_some_iff.1 found
      obtain ⟨before, later, rfl, rfl, named⟩ := List.map_eq_append_iff.1 split
      obtain ⟨w, after, rfl, rfl, -⟩ := List.map_eq_cons_iff.1 named
      exact .inr ⟨before, w, after, rfl, (firstRepeated_eq_none_iff.1 fine).1,
        again.resolve_left List.not_mem_nil⟩

/-- Nothing is wrong with a draft. -/
structure Sound (d : Draft) : Prop where
  topic : HasText d.topic
  subscription : HasText d.subscription
  crewed : d.workers ≠ []
  distinct : (d.workers.map WorkerSpec.name).Nodup

theorem sound_or_faulty (d : Draft) : d.Sound ∨ ∃ fault, d.Faulty fault := by
  by_cases topic : HasText d.topic
  · by_cases subscription : HasText d.subscription
    · by_cases crewed : d.workers = []
      · exact .inr ⟨_, .workersMissing topic subscription crewed⟩
      · rcases nodup_or_exists_repeated d.workers with
          distinct | ⟨before, w, after, split, distinct, again⟩
        · exact .inl ⟨topic, subscription, crewed, distinct⟩
        · exact .inr ⟨_, .workerTwice topic subscription split distinct again⟩
    · exact .inr ⟨_, .subscriptionMissing topic subscription⟩
  · exact .inr ⟨_, .topicMissing topic⟩

theorem Sound.build (sound : d.Sound) :
    ∃ topic subscription, d.topic = some topic ∧ d.subscription = some subscription ∧
      d.build = .ok (d.assemble ⟨⟨topic, subscription⟩, d.mode⟩) := by
  obtain ⟨topic, given, some⟩ := sound.topic
  obtain ⟨subscription, given', some'⟩ := sound.subscription
  refine ⟨topic, subscription, given, given', ?_⟩
  unfold Draft.build
  rw [given_eq_some_iff.2 ⟨given, some⟩, given_eq_some_iff.2 ⟨given', some'⟩,
    firstRepeated_eq_none_iff.2 ⟨sound.distinct, fun _ _ => List.not_mem_nil⟩]
  exact if_neg (mt List.isEmpty_iff.1 sound.crewed)

/-- The fault that is reported is the first thing that is wrong. -/
theorem build_eq_error_iff {fault : DraftFault} : d.build = .error fault ↔ d.Faulty fault := by
  constructor
  · intro refused
    rcases d.sound_or_faulty with sound | ⟨fault', faulty⟩
    · obtain ⟨_, _, -, -, built⟩ := sound.build
      cases built.symm.trans refused
    · cases faulty.build.symm.trans refused
      exact faulty
  · exact Faulty.build

theorem exists_build_iff : (∃ s, d.build = .ok s) ↔ d.Sound := by
  constructor
  · rintro ⟨s, built⟩
    rcases d.sound_or_faulty with sound | ⟨fault, faulty⟩
    · exact sound
    · cases faulty.build.symm.trans built
  · intro sound
    obtain ⟨_, _, -, -, built⟩ := sound.build
    exact ⟨_, built⟩

/-! ## The scenario -/

theorem lacksSignal_iff :
    d.lacksSignal = true ↔ d.messages ≠ [] ∧ ∀ w ∈ d.workers, w.signal = none := by
  simp [lacksSignal]

/-- What a draft is built into. -/
structure BuiltInto (d : Draft) (s : Scenario) : Prop where
  name : s.name = d.name
  topic : d.topic = some s.target.topic
  subscription : d.subscription = some s.target.subscription
  mode : s.target.mode = d.mode
  messages : s.messages = d.messages
  expectations : s.expectations = d.expectations
  /-- The workers are the same, in their order, but perhaps for their signals. -/
  workers : s.workers.map (fun w => (w.name, w.handler, w.expected)) =
    d.workers.map fun w => (w.name, w.handler, w.expected)
  /-- If there is something to wait for and no worker has a signal, all of them get the same one,
  which is new and waits for as many deliveries as there are messages. -/
  signalled : d.messages ≠ [] → (∀ w ∈ d.workers, w.signal = none) →
    ∃ id, (∀ w ∈ s.workers, w.signal = some id) ∧ d.signals[id]? = none ∧
      s.signals[id]? = some ⟨d.messages.length, d.messages.length⟩ ∧
      ∀ other, other ≠ id → s.signals[other]? = d.signals[other]?
  /-- Otherwise no worker gets another signal than it has. -/
  unchanged : (d.messages = [] ∨ ∃ w ∈ d.workers, w.signal ≠ none) →
    s.workers.map WorkerSpec.signal = d.workers.map WorkerSpec.signal ∧ s.signals = d.signals

theorem builtInto_assemble {topic subscription : String} (given : d.topic = some topic)
    (given' : d.subscription = some subscription) :
    d.BuiltInto (d.assemble ⟨⟨topic, subscription⟩, d.mode⟩) := by
  by_cases lacks : d.lacksSignal = true
  · have assembled : d.assemble ⟨⟨topic, subscription⟩, d.mode⟩ =
        { name := d.name, target := ⟨⟨topic, subscription⟩, d.mode⟩, messages := d.messages
          expectations := d.expectations
          workers := d.workers.map fun w => { w with signal := some d.signals.length }
          signals := d.signals ++ [.fresh d.messages.length] } := if_pos lacks
    obtain ⟨some, unsignalled⟩ := lacksSignal_iff.1 lacks
    rw [assembled]
    refine ⟨rfl, given, given', rfl, rfl, rfl, List.map_map, fun _ _ => ?_, fun otherwise => ?_⟩
    · refine ⟨d.signals.length, ?_, List.getElem?_eq_none (Nat.le_refl _),
        List.getElem?_concat_length, ?_⟩
      · intro w member
        obtain ⟨_, -, rfl⟩ := List.mem_map.1 member
        rfl
      · intro other differs
        rcases Nat.lt_or_gt_of_ne differs with before | after
        · exact List.getElem?_append_left before
        · rw [List.getElem?_eq_none (Nat.le_of_lt after), List.getElem?_eq_none]
          rw [List.length_append]
          exact after
    · rcases otherwise with none | ⟨w, member, signalled⟩
      · exact absurd none some
      · exact absurd (unsignalled w member) signalled
  · have assembled : d.assemble ⟨⟨topic, subscription⟩, d.mode⟩ =
        { name := d.name, target := ⟨⟨topic, subscription⟩, d.mode⟩, messages := d.messages
          expectations := d.expectations, workers := d.workers, signals := d.signals } :=
      if_neg lacks
    rw [assembled]
    refine ⟨rfl, given, given', rfl, rfl, rfl, rfl, fun some unsignalled => ?_, fun _ => ⟨rfl, rfl⟩⟩
    exact absurd (lacksSignal_iff.2 ⟨some, unsignalled⟩) lacks

/-- **Drafts are built as they say.** A draft is accepted exactly if nothing is wrong with it: its
topic and its subscription are given and not blank, it has a worker, and no two of its workers have
the same name. Otherwise the first thing that is wrong, in this order, is reported as the reason for
which the scenario is invalid. What is accepted keeps all that the draft says, and its workers get a
signal only if there is a message to wait for and none of them has a signal: they all get the same
one, which is new and waits for as many deliveries as there are messages. -/
theorem drafts_are_built_as_they_say (d : Draft) :
    ((∃ s, d.build = .ok s) ↔ d.Sound) ∧
      (∀ fault, d.build = .error fault ↔ d.Faulty fault) ∧
      (∀ f, d.build.mapError d.toFailure = .error f ↔
        ∃ fault, d.Faulty fault ∧ f = .invalidScenario (d.name ++ ": " ++ fault.message)) ∧
      ∀ s, d.build = .ok s → d.BuiltInto s := by
  refine ⟨exists_build_iff, fun _ => build_eq_error_iff, fun f => ?_, fun s built => ?_⟩
  · simp only [← build_eq_error_iff]
    cases d.build with
    | ok s => simp [Except.mapError]
    | error fault => simp [Except.mapError, toFailure, eq_comm]
  · obtain ⟨topic, subscription, given, given', built'⟩ := (exists_build_iff.1 ⟨s, built⟩).build
    cases built.symm.trans built'
    exact builtInto_assemble given given'

/-- Three crews: without signals the workers share a new one, the signal of one of them leaves the
other without, and a name that is used again is found where it is used again. -/
theorem drafts_of_three_crews :
    let draft : List WorkerSpec → Draft := fun workers =>
      { name := "pair", topic := some " orders", subscription := some "audit", workers
        messages := [⟨.ofNat 0, "note", none⟩], signals := [.fresh 5] }
    (∃ s id, (draft [{ name := "a" }, { name := "b" }]).build = .ok s ∧
      s.target.topic = " orders" ∧ (∀ w ∈ s.workers, w.signal = some id) ∧ id ≠ 0 ∧
      s.signals[0]? = some (.fresh 5) ∧ s.signals[id]? = some (.fresh 1)) ∧
    (∃ s, (draft [{ name := "a", signal := some 0 }, { name := "b" }]).build = .ok s ∧
      s.workers.map WorkerSpec.signal = [some 0, none] ∧ s.signals = [.fresh 5]) ∧
    (draft [{ name := "a" }, { name := "b" }, { name := "b" }, { name := "a" }]).build =
      .error (.workerTwice "b") := by
  intro draft
  have orders : HasText (some " orders") := ⟨_, rfl, 'o', by decide, by decide⟩
  have audit : HasText (some "audit") := ⟨_, rfl, 'a', by decide, by decide⟩
  refine ⟨?_, ?_, ?_⟩
  · obtain ⟨accepted, -, -, kept⟩ :=
      drafts_are_built_as_they_say (draft [{ name := "a" }, { name := "b" }])
    obtain ⟨s, built⟩ := accepted.2 ⟨orders, audit, by simp [draft], by simp [draft]⟩
    obtain ⟨id, shared, new, fresh, others⟩ :=
      (kept s built).signalled (by simp [draft]) (by simp [draft])
    have later : id ≠ 0 := by
      rintro rfl
      cases new
    exact ⟨s, id, built, Option.some.inj (kept s built).topic.symm, shared, later,
      others 0 later.symm, fresh⟩
  · obtain ⟨accepted, -, -, kept⟩ :=
      drafts_are_built_as_they_say (draft [{ name := "a", signal := some 0 }, { name := "b" }])
    obtain ⟨s, built⟩ := accepted.2 ⟨orders, audit, by simp [draft], by simp [draft]⟩
    obtain ⟨signals, same⟩ := (kept s built).unchanged
      (.inr ⟨{ name := "a", signal := some 0 }, List.mem_cons_self, Option.some_ne_none 0⟩)
    exact ⟨s, built, signals, same⟩
  · exact ((drafts_are_built_as_they_say _).2.1 _).2
      (@Faulty.workerTwice _ [{ name := "a" }, { name := "b" }] [{ name := "a" }] { name := "b" }
        orders audit rfl (by decide) (by decide))

end Draft

end DeliveryBench
