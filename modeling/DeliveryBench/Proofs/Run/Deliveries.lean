import DeliveryBench.Proofs.Run.Completion
import DeliveryBench.Proofs.Run.Verdict

/-!
# What the workers of a run are delivered

A scenario whose workers have no signals of their own is run on a new broker in memory, and comes to
verify its deliveries. Then, whatever the handlers do, whatever is expected of the payloads and
however the steps interleave:

* in shared mode every worker has been delivered the messages whose turn was its own, in order
  (`every_worker_is_delivered_its_turns`);
* in key-shared mode all messages of a key have been delivered to one worker, in order
  (`every_key_is_delivered_to_one_worker`).

Caveat: both statements are about runs with fewer messages than there are words.
-/

namespace DeliveryBench

/-! ## Shares by turns and by keys -/

/-- The messages of a list that is dealt out in turn which come to the one at a place. -/
def dealtInTurn (messages : List Message) (count index : Nat) : List Message :=
  (messages.zipIdx.filter fun entry => entry.2 % count == index).map Prod.fst

variable {log : List Message} {places : List Place}

theorem share_of_turns {count : Nat} (index : Nat) (same : places.length = log.length)
    (turns : ∀ j < log.length, places[j]? = some (.queue (j % count))) :
    share log places (.queue index) = dealtInTurn log count index := by
  have paired : log.zip places =
      log.zipIdx.map fun entry => (entry.1, .queue (entry.2 % count)) := by
    apply List.ext_getElem?
    intro j
    rw [List.getElem?_map, List.getElem?_zipIdx]
    by_cases inside : j < log.length
    · rw [List.getElem?_eq_getElem inside]
      exact List.getElem?_zip_eq_some.2
        ⟨List.getElem?_eq_getElem inside, by simpa using turns j inside⟩
    · rw [List.getElem?_eq_none (by rw [List.length_zip]; omega),
        List.getElem?_eq_none (by omega)]
      rfl
  unfold share dealtInTurn
  rw [paired, List.filter_map, List.map_map]
  congr 1
  apply List.filter_congr
  intro entry _
  rw [Bool.eq_iff_iff, Function.comp_apply, beq_iff_eq, beq_iff_eq, Place.queue.injEq]

theorem length_dealtInTurn (messages : List Message) (count index : Nat) :
    (dealtInTurn messages count index).length =
      (List.range messages.length).countP fun j => j % count == index := by
  unfold dealtInTurn
  rw [List.length_map, ← List.countP_eq_length_filter]
  have positions : messages.zipIdx.map Prod.snd = List.range messages.length := by
    rw [List.zipIdx_map_snd, List.range_eq_range']
  rw [← positions, List.countP_map]
  rfl

theorem mem_share {m : Message} {place : Place} (member : m ∈ share log places place) :
    ∃ j : Nat, log[j]? = some m ∧ places[j]? = some place := by
  rcases List.mem_map.1 member with ⟨⟨m', place'⟩, kept, rfl⟩
  rcases List.mem_filter.1 kept with ⟨entry, here⟩
  obtain rfl : place' = place := eq_of_beq here
  rcases List.mem_iff_getElem?.1 entry with ⟨j, there⟩
  exact ⟨j, List.getElem?_zip_eq_some.1 there⟩

/-- Messages that all go to one place are found there, and nowhere before each other. -/
theorem filter_share {chosen : Message → Bool} {place : Place}
    (same : places.length = log.length)
    (all : ∀ (j : Nat) (m : Message), log[j]? = some m → chosen m = true →
      places[j]? = some place) :
    (share log places place).filter chosen = log.filter chosen := by
  have messages : log.filter chosen =
      ((log.zip places).filter (chosen ∘ Prod.fst)).map Prod.fst := by
    rw [← List.filter_map, List.map_fst_zip (Nat.le_of_eq same.symm)]
  unfold share
  rw [messages, List.filter_map, List.filter_filter]
  congr 1
  apply List.filter_congr
  rintro ⟨m, place'⟩ entry
  rcases List.mem_iff_getElem?.1 entry with ⟨j, there⟩
  rcases List.getElem?_zip_eq_some.1 there with ⟨message, placed⟩
  cases chosen' : chosen m with
  | false => simp [chosen']
  | true =>
      have here : some place' = some place := placed.symm.trans (all j m message chosen')
      cases here
      simp [chosen']

namespace Run

variable {d : Draft} {s : Scenario} {settings : Settings} {r : Run Broker} {j : Journal}
  {entries : List (Nat × Message)}

/-- Workers of the same names stand at the same places. -/
private theorem getElem?_of_names {workers workers' : List WorkerSpec} {i : Nat} {w : WorkerSpec}
    (names : workers.map WorkerSpec.name = workers'.map WorkerSpec.name)
    (there : workers[i]? = some w) : ∃ w', workers'[i]? = some w' ∧ w'.name = w.name := by
  have name : (workers'.map WorkerSpec.name)[i]? = some w.name := by
    rw [← names, List.getElem?_map, there, Option.map_some]
  rw [List.getElem?_map] at name
  rcases Option.map_eq_some_iff.1 name with ⟨w', there', same⟩
  exact ⟨w', there', same⟩

/-! ## Shared mode -/

theorem Delivered.turns (delivered : Delivered s j entries places)
    (shared : s.target.mode = .shared) (few : s.messages.length ≤ Word.limit) :
    ∀ position < s.messages.length,
      places[position]? = some (.queue (position % s.workers.length)) := by
  obtain ⟨g, mode, size, dealt⟩ := delivered.law
  obtain ⟨-, turns⟩ := dealt.turns (mode.trans shared)
  intro position inside
  have place := turns position inside
  rwa [Word.wrap_of_lt (by omega), size] at place

/-- The counts by worker that add up the turns are the counts of the deliveries. -/
theorem Delivered.countPerWorker (delivered : Delivered s j entries places)
    (distinct : (s.workers.map WorkerSpec.name).Nodup) (shared : s.target.mode = .shared)
    (few : s.messages.length ≤ Word.limit) (counts : Counts)
    (listed : ∀ (i : Nat) (w : WorkerSpec), s.workers[i]? = some w →
      counts.count w.name =
        (List.range s.messages.length).countP fun n => n % s.workers.length == i)
    (unlisted : ∀ name ∉ s.workers.map WorkerSpec.name, counts.count name = 0) :
    s.standard.violationsOf j.snapshot (.countPerWorker counts) = [] := by
  apply (Snapshot.workerCountMismatches_eq_nil_iff _ _).2
  intro name
  by_cases known : name ∈ s.workers.map WorkerSpec.name
  · rcases List.mem_map.1 known with ⟨w, member, rfl⟩
    rcases List.mem_iff_getElem?.1 member with ⟨i, there⟩
    have observed := delivered.observationsFor distinct few there
    rw [share_of_turns i delivered.size (delivered.turns shared few)] at observed
    have length := congrArg List.length observed
    rw [List.length_map, length_dealtInTurn] at length
    rw [listed i w there, ← length, Snapshot.countOfWorker_eq_countP,
      List.countP_eq_length_filter]
    rfl
  · rw [unlisted name known]
    symm
    apply Snapshot.countOfWorker_eq_zero_iff.2
    intro delivered'
    rcases Snapshot.mem_workers.1 delivered' with ⟨o, member, rfl⟩
    obtain ⟨i, w, there, same⟩ := delivered.worker_known few member
    rw [same] at known
    exact known (List.mem_map_of_mem (List.mem_of_getElem? there))

/-- **In shared mode the workers take turns.** When the run verifies its deliveries, the worker at
place `i` of so many has been delivered the messages at the positions that leave the remainder `i`,
in their order, and nobody else has been delivered anything. So the counts by worker and, if the
identifiers differ, the deliveries are as they should be. -/
theorem every_worker_is_delivered_its_turns (built : d.build = .ok s) (shared : d.mode = .shared)
    (unsignalled : ∀ w ∈ d.workers, w.signal = none) (few : d.messages.length < Word.limit)
    (reachable : Reachable (Broker.plan s settings) {} r) (stage : r.stage = .verifying) :
    (∀ (i : Nat) (w : WorkerSpec), d.workers[i]? = some w →
      (r.world.journal.snapshot.observationsFor w.name).map Observation.message =
        dealtInTurn d.messages d.workers.length i) ∧
    (∀ o ∈ r.world.journal.snapshot.observations, ∃ w ∈ d.workers, o.worker = w.name) ∧
    (∀ counts : Counts,
      (∀ (i : Nat) (w : WorkerSpec), d.workers[i]? = some w →
        counts.count w.name =
          (List.range d.messages.length).countP fun n => n % d.workers.length == i) →
      (∀ name ∉ d.workers.map WorkerSpec.name, counts.count name = 0) →
      s.standard.violationsOf r.world.journal.snapshot (.countPerWorker counts) = []) ∧
    ((d.messages.map Message.id).Nodup →
      s.standard.violationsOf r.world.journal.snapshot .deliveredExactly = []) := by
  obtain ⟨entries, places, delivered⟩ := reachable.delivered built unsignalled stage
  rcases Draft.build_eq_ok built with ⟨-, distinct, -⟩
  rcases Draft.build_keeps built with ⟨messages, mode, names⟩
  have size : s.workers.length = d.workers.length := by
    simpa using congrArg List.length names
  rw [← names] at distinct ⊢
  rw [← messages] at few ⊢
  rw [← size]
  have few' := Nat.le_of_lt few
  have shared' : s.target.mode = .shared := mode.trans shared
  refine ⟨?_, ?_, ?_, delivered.deliveredExactly few'⟩
  · intro i w there
    obtain ⟨w', there', name⟩ := getElem?_of_names names.symm there
    rw [← name, delivered.observationsFor distinct few' there']
    exact share_of_turns i delivered.size (delivered.turns shared' few')
  · intro o member
    obtain ⟨i, w, there, name⟩ := delivered.worker_known few' member
    obtain ⟨w', there', name'⟩ := getElem?_of_names names there
    exact ⟨w', List.mem_of_getElem? there', name.trans name'.symm⟩
  · intro counts listed unlisted
    apply delivered.countPerWorker distinct shared' few' counts _ unlisted
    intro i w there
    obtain ⟨w', there', name⟩ := getElem?_of_names names there
    rw [← name]
    exact listed i w' there'

/-- Two workers, three messages. -/
theorem turns_of_three_messages :
    let note := fun n => (⟨.ofNat n, "note", none⟩ : Message)
    let d : Draft :=
      { name := "turns"
        topic := some "orders"
        subscription := some "audit"
        workers := [{ name := "a" }, { name := "b" }]
        messages := [note 0, note 1, note 2] }
    let plan := Broker.plan (d.assemble ⟨⟨"orders", "audit"⟩, .shared⟩) {}
    let taken : List Step := List.replicate 8 .runner ++ List.replicate 8 (.worker 0)
      ++ List.replicate 4 (.worker 1) ++ [.runner]
    d.build = .ok plan.scenario ∧ d.messages.length < Word.limit ∧
      ∃ r, (initial plan {}).steps plan taken = some r ∧ r.stage = .verifying ∧
        (r.world.journal.snapshot.observationsFor "a").map Observation.message
          = [note 0, note 2] ∧
        plan.scenario.standard.violationsOf r.world.journal.snapshot .deliveredExactly = [] := by
  intro note d plan taken
  have built : d.build = .ok plan.scenario := rfl
  have come : verifies ((initial plan {}).steps plan taken) = true := by decide +kernel
  rcases exists_of_verifies come with ⟨r, run, stage⟩
  have turns := every_worker_is_delivered_its_turns built rfl (by decide) (by decide)
    (Reachable.initial.steps run) stage
  have dealt : dealtInTurn d.messages d.workers.length 0 = [note 0, note 2] := by decide
  exact ⟨built, by decide, r, run, stage, (turns.1 0 _ rfl).trans dealt,
    turns.2.2.2 (by decide)⟩

/-! ## Key-shared mode -/

/-- All messages of a key have been put on the queue of one worker. -/
theorem Delivered.keys (delivered : Delivered s j entries places)
    (keyShared : s.target.mode = .keyShared) {m : Message} {key : String}
    (member : m ∈ s.messages) (keyed : m.key = some key) :
    ∃ i < s.workers.length, ∀ (position : Nat) (m' : Message),
      s.messages[position]? = some m' → (m'.key == some key) = true →
        places[position]? = some (.queue i) := by
  obtain ⟨g, mode, -, dealt⟩ := delivered.law
  have keys := dealt.keys (mode.trans keyShared)
  rcases List.mem_iff_getElem?.1 member with ⟨position, there⟩
  obtain ⟨i, -, place, owns⟩ := keys position m key there keyed
  obtain ⟨i', inside, same⟩ := delivered.placed _ (List.mem_of_getElem? place)
  obtain rfl : i = i' := Place.queue.inj same
  refine ⟨i, inside, ?_⟩
  intro position' m' there' keyed'
  obtain ⟨k, -, place', owns'⟩ := keys position' m' key there' (eq_of_beq keyed')
  rwa [owns.unique owns']

/-- Whoever has been delivered a message of a key is the worker to whom all of them have gone. -/
theorem Delivered.worker_of_key (delivered : Delivered s j entries places)
    (distinct : (s.workers.map WorkerSpec.name).Nodup) (few : s.messages.length ≤ Word.limit)
    {i : Nat} {key : String}
    (all : ∀ (position : Nat) (m : Message), s.messages[position]? = some m →
      (m.key == some key) = true → places[position]? = some (.queue i))
    {o : Observation} (member : o ∈ j.snapshot.observations) (keyed : o.key = some key) :
    o.worker = s.nameAt i := by
  obtain ⟨k, w, there, name⟩ := delivered.worker_known few member
  have own : o.message ∈ share s.messages places (.queue k) := by
    rw [← delivered.observationsFor distinct few there]
    exact List.mem_map_of_mem (List.mem_filter.2 ⟨member, by simp [name]⟩)
  rcases mem_share own with ⟨position, message, place⟩
  have place' := all position o.message message (beq_iff_eq.2 keyed)
  obtain rfl : k = i := Place.queue.inj (Option.some.inj (place.symm.trans place'))
  rw [name, Delivered.nameAt_eq there]

/-- **In key-shared mode a key stays with one worker.** When the run verifies its deliveries, the
messages of each key that occurs have been delivered to one worker, in their order; every message
has been delivered as often as it is listed; so no key is split, the counts by key are those of the
messages, and, if the identifiers differ, the deliveries are as they should be. -/
theorem every_key_is_delivered_to_one_worker (built : d.build = .ok s)
    (keyShared : d.mode = .keyShared) (unsignalled : ∀ w ∈ d.workers, w.signal = none)
    (few : d.messages.length < Word.limit)
    (reachable : Reachable (Broker.plan s settings) {} r) (stage : r.stage = .verifying) :
    (∀ m ∈ d.messages, ∀ key, m.key = some key → ∃ w ∈ d.workers,
      r.world.journal.snapshot.workersOf key = [w.name] ∧
      ((r.world.journal.snapshot.observationsFor w.name).map Observation.message).filter
        (fun m => m.key == some key) = d.messages.filter fun m => m.key == some key) ∧
    (r.world.journal.snapshot.observations.map Observation.message).Perm d.messages ∧
    s.standard.violationsOf r.world.journal.snapshot .keyAffinity = [] ∧
    (∀ counts : Counts,
      (∀ key, counts.count key = d.messages.countP fun m => m.key == some key) →
      s.standard.violationsOf r.world.journal.snapshot (.countPerKey counts) = []) ∧
    ((d.messages.map Message.id).Nodup →
      s.standard.violationsOf r.world.journal.snapshot .deliveredExactly = []) := by
  obtain ⟨entries, places, delivered⟩ := reachable.delivered built unsignalled stage
  rcases Draft.build_eq_ok built with ⟨-, distinct, -⟩
  rcases Draft.build_keeps built with ⟨messages, mode, names⟩
  rw [← names] at distinct
  rw [← messages] at few ⊢
  have few' := Nat.le_of_lt few
  have keyShared' : s.target.mode = .keyShared := mode.trans keyShared
  have perm := delivered.observations_perm few'
  refine ⟨?_, perm, ?_, ?_, delivered.deliveredExactly few'⟩
  · intro m member key keyed
    obtain ⟨i, inside, all⟩ := delivered.keys keyShared' member keyed
    have there := List.getElem?_eq_getElem inside
    obtain ⟨w, there', name⟩ := getElem?_of_names names there
    have named : s.nameAt i = w.name := (Delivered.nameAt_eq there).trans name.symm
    have observed := delivered.observationsFor distinct few' there
    rw [← name] at observed
    refine ⟨w, List.mem_of_getElem? there', ?_, ?_⟩
    · have once : (r.world.journal.snapshot.workersOf key).Nodup := nodup_ascending _
      apply List.perm_singleton.1
      apply (List.perm_ext_iff_of_nodup once (List.nodup_singleton _)).2
      intro name'
      rw [Snapshot.mem_workersOf, List.mem_singleton]
      constructor
      · rintro ⟨o, member', keyed', rfl⟩
        rw [← named]
        exact delivered.worker_of_key distinct few' all member' keyed'
      · rintro rfl
        obtain ⟨o, member', rfl⟩ := List.mem_map.1 (perm.symm.subset member)
        refine ⟨o, member', keyed, ?_⟩
        rw [← named]
        exact delivered.worker_of_key distinct few' all member' keyed
    · rw [observed]
      exact filter_share delivered.size all
  · apply (Snapshot.splitKeys_eq_nil_iff _).2
    intro o member o' member' key keyed keyed'
    have message := perm.subset (List.mem_map_of_mem member)
    obtain ⟨i, -, all⟩ := delivered.keys keyShared' message keyed
    rw [delivered.worker_of_key distinct few' all member keyed,
      delivered.worker_of_key distinct few' all member' keyed']
  · intro counts listed
    apply (Snapshot.keyCountMismatches_eq_nil_iff _ _).2
    intro key
    rw [listed, Snapshot.countOfKey_eq_countP, ← perm.countP_eq, List.countP_map]
    rfl

/-- Two workers, two keys, and a message without a key. -/
theorem keys_of_four_messages :
    let note := fun n key => (⟨.ofNat n, "note", key⟩ : Message)
    let d : Draft :=
      { name := "keys"
        topic := some "orders"
        subscription := some "audit"
        mode := .keyShared
        workers := [{ name := "a" }, { name := "b" }]
        messages := [note 0 (some "eu"), note 1 (some ""), note 2 none, note 3 (some "eu")] }
    let plan := Broker.plan (d.assemble ⟨⟨"orders", "audit"⟩, .keyShared⟩) {}
    let taken : List Step := List.replicate 9 .runner ++ List.replicate 12 (.worker 0)
      ++ List.replicate 4 (.worker 1) ++ [.runner]
    d.build = .ok plan.scenario ∧ d.messages.length < Word.limit ∧
      ∃ r, (initial plan {}).steps plan taken = some r ∧ r.stage = .verifying ∧
        (∃ w ∈ d.workers, r.world.journal.snapshot.workersOf "eu" = [w.name] ∧
          ((r.world.journal.snapshot.observationsFor w.name).map Observation.message).filter
            (fun m => m.key == some "eu") = [note 0 (some "eu"), note 3 (some "eu")]) ∧
        plan.scenario.standard.violationsOf r.world.journal.snapshot .keyAffinity = [] := by
  intro note d plan taken
  have built : d.build = .ok plan.scenario := rfl
  have come : verifies ((initial plan {}).steps plan taken) = true := by decide +kernel
  rcases exists_of_verifies come with ⟨r, run, stage⟩
  have keys := every_key_is_delivered_to_one_worker built rfl (by decide) (by decide)
    (Reachable.initial.steps run) stage
  obtain ⟨w, member, alone, inOrder⟩ := keys.1 (note 0 (some "eu")) (by decide) "eu" rfl
  exact ⟨built, by decide, r, run, stage, ⟨w, member, alone, inOrder.trans (by decide)⟩,
    keys.2.2.1⟩

end Run

end DeliveryBench
