import DeliveryBench.Proofs.Broker.Steady
import DeliveryBench.Proofs.Run.Moves
import DeliveryBench.Run.History

/-!
# Where the workers stand

In every state of a run each worker has one of three posts (`Stage.post`): it serves, it is the one
that the runner waits for to leave, or it has left. What its state, its subscription and its loop
are like follows from its post and from what its subscribe came to (`Worker.At`), and every step
keeps this up (`Through.posts`).

So once the runner has been through all workers, each of them is stopped, no loop goes on, and no
subscription is kept.
-/

namespace DeliveryBench

variable {σ : Type}

inductive Post where
  | serving | leaving | left
deriving DecidableEq

/-- How many workers the runner has done with, of so many. -/
def Stage.torn (count : Nat) : Stage → Nat
  | .stopping index | .awaiting index | .abandoning index => index
  | .closing | .reporting | .done _ => count
  | _ => 0

/-- The place of the worker that the runner waits for. -/
def Stage.leaver? : Stage → Option Nat
  | .awaiting index | .abandoning index => some index
  | _ => none

/-- The post of the worker at a place, of so many. -/
def Stage.post (stage : Stage) (count index : Nat) : Post :=
  if index < stage.torn count then .left
  else if stage.leaver? = some index then .leaving
  else .serving

/-- How a worker is found at its post. -/
inductive Worker.At (w : Worker) : Post → Except BrokerError Ticket → Prop
  | serves {ticket : Ticket} {l : Loop} : w.state = .running → w.ticket = some ticket →
    w.loop = some l → l.stopRequested = false → At w .serving (.ok ticket)
  /-- It has not been able to subscribe. -/
  | idles {e : BrokerError} : w.state = .failed → w.ticket = none → w.loop = none →
    At w .serving (.error e)
  | leaves {ticket : Ticket} {l : Loop} : w.state = .stopped → w.ticket = some ticket →
    w.loop = some l → l.stopRequested = true → At w .leaving (.ok ticket)
  | left {ticket : Ticket} {l : Loop} {ending : Ending} : w.state = .stopped → w.ticket = none →
    w.loop = some l → l.phase = .ended ending → At w .left (.ok ticket)
  | dismissed {e : BrokerError} : w.state = .stopped → w.ticket = none → w.loop = none →
    At w .left (.error e)

/-! ## One worker -/

section Worker

variable {w w' : Worker} {post : Post} {join : Except BrokerError Ticket}

theorem Worker.At.stopped (stands : w.At .left join) : w.state = .stopped := by
  cases stands with
  | left state | dismissed state => exact state

theorem Worker.At.move {client : Client σ} {l l' : Loop} {world world' : World σ}
    (stands : w.At post join) (loop : w.loop = some l)
    (move : Loop.Move client l world l' world') : { w with loop := some l' }.At post join := by
  obtain ⟨-, -, stop⟩ := move.same
  cases stands with
  | serves state ticket there goesOn =>
      obtain rfl := Option.some.inj (loop.symm.trans there)
      exact .serves state ticket rfl (stop.trans goesOn)
  | leaves state ticket there asked =>
      obtain rfl := Option.some.inj (loop.symm.trans there)
      exact .leaves state ticket rfl (stop.trans asked)
  | left state ticket there ended =>
      obtain rfl := Option.some.inj (loop.symm.trans there)
      exact absurd ended (move.unended _)
  | idles _ _ none | dismissed _ _ none => cases loop.symm.trans none

theorem Worker.At.mark (stands : w.At .serving join) (marked : w.beginStop = (false, w')) :
    w'.At .left join := by
  cases stands with
  | serves state =>
      unfold Worker.beginStop at marked
      rw [state] at marked
      cases marked
  | idles state ticket loop =>
      unfold Worker.beginStop at marked
      rw [state] at marked
      cases marked
      exact .dismissed rfl ticket loop

theorem Worker.At.ask (stands : w.At .serving join) (asked : w.beginStop = (true, w')) :
    w'.At .leaving join := by
  cases stands with
  | @serves ticket l state held loop =>
      unfold Worker.beginStop at asked
      rw [state, loop] at asked
      cases asked
      exact .leaves rfl held rfl rfl
  | idles state =>
      unfold Worker.beginStop at asked
      rw [state] at asked
      cases asked

/-- A worker that is done with leaves without its subscription, once its loop has ended. -/
theorem Worker.At.leave (stands : w.At .leaving join) (state : w'.state = w.state)
    (ended : ∃ l ending, w'.loop = some l ∧ l.phase = .ended ending) :
    { w' with ticket := none }.At .left join := by
  obtain ⟨l, ending, loop, phase⟩ := ended
  cases stands with
  | leaves stopped => exact .left (state.trans stopped) rfl loop phase

theorem Worker.beginStop_stopTimeout (w : Worker) : w.beginStop.2.stopTimeout = w.stopTimeout := by
  unfold Worker.beginStop
  split <;> rfl

theorem Worker.exists_of_ending? {ending : Ending} (ended : w.ending? = some ending) :
    ∃ l, w.loop = some l ∧ l.phase = .ended ending := by
  rcases Option.bind_eq_some_iff.1 ended with ⟨l, loop, there⟩
  unfold Loop.ending? at there
  split at there
  · rename_i phase
    cases there
    exact ⟨l, loop, phase⟩
  · cases there

theorem Worker.exists_of_abort? (aborted : w.abort? = some w') :
    ∃ l, w' = { w with loop := some l } ∧ l.phase = .ended .aborted := by
  unfold Worker.abort? at aborted
  split at aborted
  · cases aborted
  · rcases Option.map_eq_some_iff.1 aborted with ⟨l', ended, rfl⟩
    refine ⟨l', rfl, ?_⟩
    unfold Loop.abort? at ended
    split at ended
    · cases ended
      rfl
    · cases ended
      rfl
    · cases ended

end Worker

/-! ## The posts of the stages -/

theorem post_of_quiet {stage : Stage} {count : Nat} (torn : stage.torn count = 0)
    (nobody : stage.leaver? = none) (i : Nat) : stage.post count i = .serving := by
  unfold Stage.post
  rw [torn, nobody, if_neg (Nat.not_lt_zero i), if_neg nofun]

theorem post_stopping (count index i : Nat) :
    (Stage.stopping index).post count i = if i < index then .left else .serving := by
  unfold Stage.post
  rw [if_neg (show ¬ (Stage.stopping index).leaver? = some i from nofun)]
  rfl

theorem post_of_leaver {stage : Stage} {count index : Nat} (leaver : stage.leaver? = some index)
    (torn : stage.torn count = index) (i : Nat) :
    stage.post count i =
      if i < index then .left else if i = index then .leaving else .serving := by
  unfold Stage.post
  rw [torn, leaver]
  by_cases here : i = index
  · rw [if_pos (congrArg some here.symm), if_pos here]
  · rw [if_neg fun same => here (Option.some.inj same).symm, if_neg here]

namespace Run

variable {plan : Plan σ} {broker : σ} {past : List (Moment σ)} {r r' : Run σ} {s : Step}
  {results : List (Except BrokerError Ticket)}

/-! ## All workers -/

/-- Every worker is at its post. -/
structure Posts (plan : Plan σ) (r : Run σ) (results : List (Except BrokerError Ticket)) : Prop where
  length : results.length = r.workers.length
  stopTimeout : ∀ w ∈ r.workers, w.stopTimeout = plan.settings.stopTimeout
  stands : ∀ (i : Nat) (w : Worker) (join : Except BrokerError Ticket),
    r.workers[i]? = some w → results[i]? = some join → w.At (r.stage.post r.workers.length i) join
  present : ∀ i, r.stage.leaver? = some i → i < r.workers.length

theorem Posts.exists_at (posts : Posts plan r results) {i : Nat} {w : Worker}
    (there : r.workers[i]? = some w) :
    ∃ join, results[i]? = some join ∧ w.At (r.stage.post r.workers.length i) join := by
  have inside : i < results.length := by
    rw [posts.length]
    exact (List.getElem?_eq_some_iff.1 there).1
  exact ⟨_, List.getElem?_eq_getElem inside,
    posts.stands i w _ there (List.getElem?_eq_getElem inside)⟩

theorem Posts.of_same (posts : Posts plan r results)
    (workers : r'.workers = r.workers)
    (same : ∀ i < r.workers.length,
      r'.stage.post r.workers.length i = r.stage.post r.workers.length i)
    (leaver : ∀ i, r'.stage.leaver? = some i → i < r.workers.length) : Posts plan r' results where
  length := by rw [workers]; exact posts.length
  stopTimeout := by rw [workers]; exact posts.stopTimeout
  stands := by
    intro i w join there joined
    rw [workers] at there ⊢
    rw [same i (List.getElem?_eq_some_iff.1 there).1]
    exact posts.stands i w join there joined
  present := by rw [workers]; exact leaver

theorem Posts.set (posts : Posts plan r results)
    {index : Nat} {w w' : Worker} (there : r.workers[index]? = some w)
    (workers : r'.workers = r.workers.set index w') (timeout : w'.stopTimeout = w.stopTimeout)
    (here : ∀ join, w.At (r.stage.post r.workers.length index) join →
      w'.At (r'.stage.post r.workers.length index) join)
    (same : ∀ i, i ≠ index →
      r'.stage.post r.workers.length i = r.stage.post r.workers.length i)
    (leaver : ∀ i, r'.stage.leaver? = some i → i < r.workers.length) : Posts plan r' results where
  length := by rw [workers, List.length_set]; exact posts.length
  stopTimeout := by
    rw [workers]
    intro w'' member
    rcases List.mem_or_eq_of_mem_set member with old | rfl
    · exact posts.stopTimeout w'' old
    · exact timeout.trans (posts.stopTimeout w (List.mem_of_getElem? there))
  stands := by
    intro i w'' join there' joined
    rw [workers, List.length_set]
    rw [workers, List.getElem?_set] at there'
    split at there'
    · rename_i place
      subst place
      rw [if_pos (List.getElem?_eq_some_iff.1 there).1] at there'
      cases there'
      exact here join (posts.stands index w join there joined)
    · rename_i elsewhere
      rw [same i (Ne.symm elsewhere)]
      exact posts.stands i w'' join there' joined
  present := by rw [workers, List.length_set]; exact leaver

theorem posts_initial (plan : Plan σ) (broker : σ) : Posts plan (initial plan broker) [] where
  length := rfl
  stopTimeout := fun _ member => nomatch member
  stands := fun _ _ _ there => nomatch there
  present := fun _ leaver => nomatch leaver

theorem attached_at (spec : WorkerSpec) (stopTimeout : Duration) (ticket : Ticket) :
    (attached spec stopTimeout ticket).At .serving (.ok ticket) :=
  .serves rfl rfl rfl rfl

theorem turnedAway_at (spec : WorkerSpec) (stopTimeout : Duration) (e : BrokerError) :
    (turnedAway spec stopTimeout).At .serving (.error e) :=
  .idles rfl rfl rfl

theorem Posts.snoc (posts : Posts plan r results)
    {w : Worker} {join : Except BrokerError Ticket} {rest : List WorkerSpec}
    (workers : r'.workers = r.workers ++ [w]) (stage : r.stage.torn r.workers.length = 0)
    (nobody : r.stage.leaver? = none) (stage' : r'.stage = .starting rest)
    (timeout : w.stopTimeout = plan.settings.stopTimeout) (new : w.At .serving join) :
    Posts plan r' (results ++ [join]) where
  length := by rw [workers, List.length_append, List.length_append, posts.length]; rfl
  stopTimeout := by
    rw [workers]
    intro w' member
    rcases List.mem_append.1 member with old | last
    · exact posts.stopTimeout w' old
    · rw [List.mem_singleton.1 last]
      exact timeout
  stands := by
    intro i w' join' there joined
    rw [stage', post_of_quiet rfl rfl]
    rw [workers] at there
    rcases Group.getElem?_concat_cases there with old | ⟨rfl, rfl⟩
    · have inside := (List.getElem?_eq_some_iff.1 old).1
      rw [List.getElem?_append_left (posts.length ▸ inside)] at joined
      have stands := posts.stands i w' join' old joined
      rwa [post_of_quiet stage nobody] at stands
    · rw [← posts.length, List.getElem?_concat_length] at joined
      cases joined
      exact new
  present := by
    rw [stage']
    exact nofun

theorem joined?_eq_none (other : ∀ spec rest, r.stage ≠ .starting (spec :: rest)) :
    (⟨r, s⟩ : Moment σ).joined? plan = none := by
  unfold Moment.joined?
  split
  · rename_i spec rest _ stage
    exact absurd stage (other spec rest)
  · rfl

/-- Only a step that starts a worker adds to what the workers got. -/
theorem append_joined? (results : List (Except BrokerError Ticket))
    (other : ∀ spec rest, r.stage ≠ .starting (spec :: rest)) :
    results ++ ((⟨r, s⟩ : Moment σ).joined? plan).toList = results := by
  rw [joined?_eq_none other, Option.toList_none, List.append_nil]

theorem Posts.startWorker (posts : Posts plan r results)
    {spec : WorkerSpec} {rest : List WorkerSpec} (stage : r.stage = .starting (spec :: rest)) :
    Posts plan (r.startWorker plan spec rest)
      (results ++ ((⟨r, .runner⟩ : Moment σ).joined? plan).toList) := by
  have joined : (⟨r, .runner⟩ : Moment σ).joined? plan =
      some (plan.client.subscribe plan.scenario.target r.world.broker).1 := by
    simp [Moment.joined?, stage]
  have quiet : r.stage.torn r.workers.length = 0 ∧ r.stage.leaver? = none := by
    rw [stage]
    exact ⟨rfl, rfl⟩
  rw [joined, Option.toList_some]
  generalize answer : plan.client.subscribe plan.scenario.target r.world.broker = result
  obtain ⟨join, broker⟩ := result
  cases join with
  | ok ticket =>
      rw [startWorker_of_ok spec rest answer]
      exact posts.snoc rfl quiet.1 quiet.2 rfl rfl (attached_at _ _ _)
  | error e =>
      rw [startWorker_of_error spec rest answer]
      exact posts.snoc rfl quiet.1 quiet.2 rfl rfl (turnedAway_at _ _ _)

/-- A worker that is at its post when it is waited for is done with once its loop has ended. -/
theorem Posts.finishStop (posts : Posts plan r results)
    {index : Nat} {w w' : Worker} (leaver : r.stage.leaver? = some index)
    (torn : r.stage.torn r.workers.length = index) (there : r.workers[index]? = some w)
    (state : w'.state = w.state) (timeout : w'.stopTimeout = w.stopTimeout)
    (ended : ∃ l ending, w'.loop = some l ∧ l.phase = .ended ending) (outcome : StopOutcome) :
    Posts plan (r.finishStop plan index w' outcome) results := by
  have workers : (r.finishStop plan index w' outcome).workers =
      r.workers.set index { w' with ticket := none } := by
    show r.workers.set index (w'.giveBack plan.client r.world.broker).2.1 = _
    rw [giveBack_loop]
  have before := post_of_leaver leaver torn
  have after := post_stopping r.workers.length (index + 1)
  refine posts.set there workers timeout ?_ ?_ (fun _ leaver => nomatch leaver)
  · intro join stands
    rw [before, if_neg (Nat.lt_irrefl index), if_pos rfl] at stands
    show Worker.At _ ((Stage.stopping (index + 1)).post r.workers.length index) join
    rw [after, if_pos (Nat.lt_succ_self index)]
    exact stands.leave state ended
  · intro i elsewhere
    show (Stage.stopping (index + 1)).post r.workers.length i = _
    rw [after, before, if_neg elsewhere]
    by_cases earlier : i < index
    · rw [if_pos earlier, if_pos (by omega)]
    · rw [if_neg earlier, if_neg (by omega)]

theorem Posts.turn (posts : Posts plan r results)
    (turn : Turn plan r r') :
    Posts plan r' (results ++ ((⟨r, .runner⟩ : Moment σ).joined? plan).toList) := by
  cases turn with
  | startedOne stage => exact posts.startWorker stage
  | startFailed stage | startedAll stage | settled stage | published stage | publishRefused stage
  | publishNoted stage | publishFailed stage | publishedAll stage | metAll stage | metSome stage
  | timedOut stage | overflowed stage | violated stage | verified stage | judged stage =>
      rw [append_joined? _ (by simp [stage])]
      refine posts.of_same rfl ?_ nofun
      intro i _
      rw [stage, post_of_quiet rfl rfl, post_of_quiet rfl rfl]
  | @stoppedAll index stage nobody =>
      rw [append_joined? _ (by simp [stage])]
      refine posts.of_same rfl ?_ nofun
      intro i inside
      have beyond : r.workers.length ≤ index := List.getElem?_eq_none_iff.1 nobody
      rw [stage]
      unfold Stage.post Stage.torn
      rw [if_pos inside, if_pos (Nat.lt_of_lt_of_le inside beyond)]
  | @marked index w w' stage there marked =>
      rw [append_joined? _ (by simp [stage])]
      have timeout := Worker.beginStop_stopTimeout w
      rw [marked] at timeout
      refine posts.set there rfl timeout ?_ ?_ nofun
      · intro join stands
        rw [stage, post_stopping, if_neg (Nat.lt_irrefl index)] at stands
        rw [post_stopping, if_pos (Nat.lt_succ_self index)]
        exact stands.mark marked
      · intro i elsewhere
        rw [stage, post_stopping, post_stopping]
        by_cases earlier : i < index
        · rw [if_pos earlier, if_pos (by omega)]
        · rw [if_neg earlier, if_neg (by omega)]
  | @asked index w w' stage there asked =>
      rw [append_joined? _ (by simp [stage])]
      have timeout := Worker.beginStop_stopTimeout w
      rw [asked] at timeout
      have inside := (List.getElem?_eq_some_iff.1 there).1
      have after : ∀ i, (Stage.awaiting index).post r.workers.length i =
          if i < index then .left else if i = index then .leaving else .serving :=
        post_of_leaver rfl rfl
      refine posts.set there rfl timeout ?_ ?_ ?_
      · intro join stands
        rw [stage, post_stopping, if_neg (Nat.lt_irrefl index)] at stands
        rw [after, if_neg (Nat.lt_irrefl index), if_pos rfl]
        exact stands.ask asked
      · intro i elsewhere
        rw [stage, post_stopping, after, if_neg elsewhere]
      · rintro i leaver
        cases leaver
        exact inside
  | ended stage there ended =>
      rw [append_joined? _ (by simp [stage])]
      obtain ⟨l, loop, phase⟩ := Worker.exists_of_ending? ended
      exact posts.finishStop (by rw [stage]; rfl) (by rw [stage]; rfl) there rfl rfl
        ⟨l, _, loop, phase⟩ _
  | endedLate stage there ended =>
      rw [append_joined? _ (by simp [stage])]
      obtain ⟨l, loop, phase⟩ := Worker.exists_of_ending? ended
      exact posts.finishStop (by rw [stage]; rfl) (by rw [stage]; rfl) there rfl rfl
        ⟨l, _, loop, phase⟩ _
  | aborted stage there _ aborted =>
      rw [append_joined? _ (by simp [stage])]
      obtain ⟨l, rfl, phase⟩ := Worker.exists_of_abort? aborted
      refine posts.finishStop (by rw [stage]; rfl) (by rw [stage]; rfl) there ?_ ?_ ?_ _
      · rfl
      · rfl
      · exact ⟨l, _, rfl, phase⟩
  | closed stage | reported stage =>
      rw [append_joined? _ (by simp [stage])]
      refine posts.of_same rfl ?_ nofun
      intro i inside
      rw [stage]
      rfl

theorem Posts.step (posts : Posts plan r results)
    (taken : r.step plan s = some r') :
    Posts plan r' (results ++ ((⟨r, s⟩ : Moment σ).joined? plan).toList) := by
  have kept {r' : Run σ} (posts' : Posts plan r' results) (other : s ≠ .runner) :
      Posts plan r' (results ++ ((⟨r, s⟩ : Moment σ).joined? plan).toList) := by
    have nothing : (⟨r, s⟩ : Moment σ).joined? plan = none := by
      cases s with
      | runner => exact absurd rfl other
      | worker | timeout | gate | broker => rfl
    rwa [nothing, Option.toList_none, List.append_nil]
  cases s with
  | runner => exact posts.turn (runnerStep_turn taken)
  | worker index =>
      rcases workerStep_move taken with ⟨w, l, l', world, there, loop, move, rfl⟩
      refine kept (posts.set there rfl rfl ?_ (fun _ _ => rfl) posts.present) nofun
      intro join stands
      exact stands.move loop move
  | timeout =>
      rcases timeoutStep_cases taken with ⟨unmet, stage, -, rfl⟩ | ⟨index, w, stage, there, -, rfl⟩
      · refine kept (posts.of_same rfl ?_ nofun) nofun
        intro i _
        rw [stage, post_of_quiet rfl rfl, post_of_quiet rfl rfl]
      · refine kept (posts.of_same rfl ?_ ?_) nofun
        · intro i _
          rw [stage]
          rfl
        · rintro i leaver
          cases leaver
          exact (List.getElem?_eq_some_iff.1 there).1
  | gate name =>
      cases taken
      exact kept (posts.of_same rfl (fun _ _ => rfl) posts.present) nofun
  | broker =>
      cases taken
      exact kept (posts.of_same rfl (fun _ _ => rfl) posts.present) nofun

theorem joins_snoc (plan : Plan σ) (past : List (Moment σ)) (x : Moment σ) :
    joins plan (past ++ [x]) = joins plan past ++ (x.joined? plan).toList := by
  unfold joins
  rw [List.filterMap_append]
  cases joined : x.joined? plan <;> simp [joined]

/-- In every state of a run each worker is at its post. -/
theorem Through.posts (through : Through plan broker past r) : Posts plan r (joins plan past) := by
  induction through with
  | initial => exact posts_initial plan broker
  | step s _ taken ih =>
      rw [joins_snoc]
      exact ih.step taken

end Run

end DeliveryBench
