import DeliveryBench.Proofs.Broker.Manning
import DeliveryBench.Proofs.Places
import DeliveryBench.Proofs.Worker.Handle

/-!
# The consumers attached are the workers at work

Every handle of a site that holds a ticket is a consumer attached at the address of its target, in
the order of the handles, and there are no other consumers (`Leads.manned`). A handle holds a ticket
while it is running and while a stop waits for its loop (`Worker.Stands.holds`). So where no stop is
under way, those attached are those running.

What the calls for several workers return and leave behind follows from what a pause cannot change:
the state of a handle, its ticket, and the counters of the broker (`Pauses.same`). Those who have
been stopped are so for good (`Leads.dismissed`), which is why stopping them again does nothing.

Caveat: consumers are told apart by their numbers, which are words, so that the attempts to subscribe
have to stay below the number of words.
-/

namespace DeliveryBench

/-! ## One handle -/

namespace Worker

variable {σ : Type} {client : Client σ} {w w' : Worker} {world world' : World σ}
  {event : Event σ} {new : List Deed} {answer : Option (Except Failure Unit)}

theorem beginStop_ticket (w : Worker) : w.beginStop.2.ticket = w.ticket := by
  unfold beginStop
  split <;> rfl

/-- Only a start hands out a ticket. -/
theorem Happening.ticket (happening : Happening client w world event new answer w' world')
    (other : ∀ target, event ≠ .start target) : w'.ticket = w.ticket ∨ w'.ticket = none := by
  cases happening with
  | joined | turnedAway | refused | hollow => exact absurd rfl (other _)
  | moved | elsewhere => exact .inl rfl
  | asked begun | marked _ begun =>
      have same := beginStop_ticket w
      rw [begun] at same
      exact .inl same
  | aborted aborted =>
      obtain ⟨l, -, -, rfl⟩ := exists_loop_of_abort? aborted
      exact .inl rfl
  | parted => exact .inr rfl

/-- A worker holds a ticket while it is running or a stop waits for it. -/
theorem Stands.holds {calls : List Deed} (stands : w.Stands calls) :
    w.ticket.isSome = (w.isRunning || w.isParting) := by
  unfold isRunning isParting
  cases stands with
  | created state _ ticket | dismissed state ticket => simp [state, ticket]
  | serving stands =>
      cases stands with
      | serves state held | idles state held => simp [state, held]
  | leaving stands =>
      cases stands with
      | leaves state held => simp [state, held]
  | left stands =>
      cases stands with
      | left state none => simp [state, none]
  | writtenOff stands =>
      cases stands with
      | dismissed state none => simp [state, none]

end Worker

/-- What only whoever manages the workers changes about a handle. -/
def Hand.card (h : Hand) : Target × WorkerSpec × WorkerState × Option Ticket :=
  (h.target, h.worker.spec, h.worker.state, h.worker.ticket)

theorem exists_mem_of_cards {hands hands' : List Hand} {h : Hand}
    (same : hands'.map Hand.card = hands.map Hand.card) (member : h ∈ hands') :
    ∃ g ∈ hands, g.card = h.card := by
  have card : h.card ∈ hands.map Hand.card := same ▸ List.mem_map_of_mem member
  exact List.mem_map.1 card

/-- A handle that has been told to start. -/
structure Hand.Sane (h : Hand) : Prop where
  stands : ∃ calls, h.worker.Stands calls
  begun : h.worker.state ≠ .created
  posted : ∀ ticket, h.worker.ticket = some ticket → ticket.address = h.target.toAddress

namespace Site

variable {s s' s'' : Site} {place : Nat} {event : Event} {target : Target} {spec : WorkerSpec}
  {stopTimeout : Duration}

/-! ## One event -/

theorem exists_of_act {doing : Worker.Event Broker} (taken : s.act place doing = some s') :
    ∃ h w world, s.hands[place]? = some h ∧
      h.worker.happen Broker.client s.world doing = some (w, world) ∧
      s' = ⟨world, s.hands.set place { h with worker := w }⟩ := by
  unfold act at taken
  split at taken
  · cases taken
  · rename_i h there
    obtain ⟨⟨w, world⟩, happened, rfl⟩ := Option.map_eq_some_iff.1 taken
    exact ⟨h, w, world, there, happened, rfl⟩

/-- A new handle subscribes, or fails because the broker turns it away. -/
theorem hire_cases (s : Site) (stopTimeout : Duration) (target : Target) (spec : WorkerSpec) :
    let broker := (s.world.broker.subscribe target).2
    (∃ ticket, (s.world.broker.subscribe target).1 = .ok ticket ∧
      s.hire stopTimeout target spec = (.ok (), ⟨s.world.withBroker broker,
        s.hands ++ [⟨target, Run.attached spec stopTimeout ticket⟩]⟩)) ∨
    ∃ e, (s.world.broker.subscribe target).1 = .error e ∧
      s.hire stopTimeout target spec = (.error (.start spec.name e),
        ⟨s.world.withBroker broker, s.hands ++ [⟨target, Run.turnedAway spec stopTimeout⟩]⟩) := by
  intro broker
  have asked : Broker.client.subscribe target s.world.broker =
      ((s.world.broker.subscribe target).1, broker) := rfl
  cases answer : (s.world.broker.subscribe target).1 with
  | ok ticket =>
      rw [answer] at asked
      refine .inl ⟨ticket, rfl, ?_⟩
      unfold hire
      rw [Worker.start_of_ok rfl rfl asked]
  | error e =>
      rw [answer] at asked
      refine .inr ⟨e, rfl, ?_⟩
      unfold hire
      rw [Worker.start_of_error rfl rfl asked]
      rfl

/-- A step of a delivery loop polls at most. -/
theorem broker_of_move {l l' : Loop} {world world' : World Broker}
    (move : Loop.Move Broker.client l world l' world') :
    world'.broker = world.broker ∨
      ∃ ticket, world'.broker = (world.broker.call (.receive ticket)).2 := by
  cases move with
  | took _ _ polled | deserted _ _ polled | broke _ _ polled =>
      exact .inr ⟨l.ticket, (congrArg Prod.snd polled).symm⟩
  | stopped | observed | collapsed | passed | failed => exact .inl rfl
  | counted => exact .inl (World.countDown_broker _ _)

/-- What is not managed changes nothing on the card of a handle, and calls the broker at most once,
for nothing that matters here. -/
theorem happen_of_unmanaged (unmanaged : event.isManaged = false)
    (taken : s.happen event = some s') :
    s'.hands.map Hand.card = s.hands.map Hand.card ∧
      (s'.world.broker = s.world.broker ∨
        ∃ c : Call, c.isPlain = true ∧ s'.world.broker = (s.world.broker.call c).2) := by
  cases event with
  | hire | ask | part => cases unmanaged
  | publish topic m | failAttempt attempt | failPublish fail =>
      cases taken
      exact ⟨rfl, .inr ⟨_, rfl, rfl⟩⟩
  | openGate gate =>
      cases taken
      exact ⟨rfl, .inl rfl⟩
  | step place =>
      obtain ⟨h, w, world, there, happened, rfl⟩ := exists_of_act taken
      cases Worker.happening_of_happen happened with
      | moved loop move =>
          refine ⟨map_set_of_same there rfl, ?_⟩
          rcases broker_of_move move with same | ⟨ticket, polled⟩
          · exact .inl same
          · exact .inr ⟨_, rfl, polled⟩
  | abort place =>
      obtain ⟨h, w, world, there, happened, rfl⟩ := exists_of_act taken
      cases Worker.happening_of_happen happened with
      | aborted aborted =>
          obtain ⟨l, -, -, rfl⟩ := Worker.exists_loop_of_abort? aborted
          exact ⟨map_set_of_same there rfl, .inl rfl⟩

theorem ask_cases (taken : s.act place .ask = some s') :
    ∃ h, s.hands[place]? = some h ∧ h.worker.isParting = false ∧
      s' = { s with hands := s.hands.set place { h with worker := h.worker.beginStop.2 } } := by
  obtain ⟨h, w, world, there, happened, rfl⟩ := exists_of_act taken
  refine ⟨h, there, ?_⟩
  unfold Worker.happen at happened
  dsimp only at happened
  split at happened
  · cases happened
  · rename_i free
    cases happened
    exact ⟨by simpa using free, rfl⟩

/-- A stop that comes to its end gives a subscription back and drops it. -/
theorem part_cases {outcome : StopOutcome} (taken : s.act place (.part outcome) = some s') :
    ∃ h ticket, s.hands[place]? = some h ∧ h.worker.state = .stopped ∧
      h.worker.ticket = some ticket ∧
      s' = ⟨s.world.withBroker ((s.world.broker.unsubscribe ticket).2.release ticket),
        s.hands.set place { h with worker := { h.worker with ticket := none } }⟩ := by
  obtain ⟨h, w, world, there, happened, rfl⟩ := exists_of_act taken
  have happening := Worker.happening_of_happen happened
  generalize Worker.Moment.deeds _ _ = new at happening
  generalize Worker.Moment.answer? _ _ = answer at happening
  cases happening with
  | parted state held => exact ⟨h, _, there, state, held, rfl⟩

theorem attempts_hire (s : Site) (stopTimeout : Duration) (target : Target) (spec : WorkerSpec) :
    (s.hire stopTimeout target spec).2.world.broker.attempts = s.world.broker.attempts + 1 := by
  have counted : (s.world.broker.subscribe target).2.attempts = s.world.broker.attempts + 1 :=
    Moment.attempts_after ⟨s.world.broker, .subscribe target⟩
  rcases s.hire_cases stopTimeout target spec with ⟨_, _, hired⟩ | ⟨_, _, hired⟩ <;>
    rw [hired] <;> exact counted

/-! ## What every event keeps -/

/-- Only a new handle attempts to subscribe. -/
theorem attempts_of_happen (taken : s.happen event = some s') :
    s.world.broker.attempts ≤ s'.world.broker.attempts := by
  have counted (b : Broker) (c : Call) : b.attempts ≤ (b.call c).2.attempts := by
    rw [show (b.call c).2.attempts = _ from Moment.attempts_after ⟨b, c⟩]
    exact Nat.le_add_right _ _
  cases managed : event.isManaged with
  | false =>
      obtain ⟨-, same | ⟨c, -, called⟩⟩ := happen_of_unmanaged managed taken
      · rw [same]
      · rw [called]
        exact counted _ c
  | true =>
      cases event with
      | hire stopTimeout target spec =>
          cases taken
          rw [attempts_hire]
          exact Nat.le_add_right _ _
      | ask place =>
          obtain ⟨h, -, -, rfl⟩ := ask_cases taken
          exact Nat.le_refl _
      | part place outcome =>
          obtain ⟨h, ticket, -, -, -, rfl⟩ := part_cases taken
          exact Nat.le_trans (counted _ (.unsubscribe ticket)) (counted _ (.release ticket))
      | _ => cases managed

theorem sane_hired (ticket : Ticket) (here : ticket.address = target.toAddress) :
    Hand.Sane ⟨target, Run.attached spec stopTimeout ticket⟩ where
  stands := ⟨_, .serving (Run.attached_at _ _ _)⟩
  begun := nofun
  posted := by
    rintro other ⟨⟩
    exact here

theorem sane_turnedAway (target : Target) (spec : WorkerSpec) (stopTimeout : Duration)
    (e : BrokerError) : Hand.Sane ⟨target, Run.turnedAway spec stopTimeout⟩ where
  stands := ⟨_, .serving (Run.turnedAway_at spec stopTimeout e)⟩
  begun := nofun
  posted := nofun

theorem sane_of_act {doing : Worker.Event Broker} (sane : ∀ h ∈ s.hands, h.Sane)
    (other : ∀ target, doing ≠ .start target) (taken : s.act place doing = some s') :
    ∀ h ∈ s'.hands, h.Sane := by
  obtain ⟨h, w, world, there, happened, rfl⟩ := exists_of_act taken
  have happening := Worker.happening_of_happen happened
  obtain ⟨⟨calls, stands⟩, begun, posted⟩ := sane h (List.mem_of_getElem? there)
  intro h' member
  rcases List.mem_or_eq_of_mem_set member with old | rfl
  · exact sane h' old
  · refine ⟨⟨_, stands.happening happening⟩, ?_, ?_⟩
    · rcases happening.onward with same | onward
      · exact same ▸ begun
      · exact onward.ne_created
    · intro ticket held
      rcases happening.ticket other with same | none
      · exact posted ticket (same ▸ held)
      · cases none.symm.trans held

theorem sane_of_happen (sane : ∀ h ∈ s.hands, h.Sane) (taken : s.happen event = some s') :
    ∀ h ∈ s'.hands, h.Sane := by
  cases event with
  | hire stopTimeout target spec =>
      cases taken
      intro h member
      rcases s.hire_cases stopTimeout target spec with ⟨ticket, accepted, hired⟩ | ⟨e, -, hired⟩
      · rw [hired] at member
        rcases List.mem_append.1 member with old | new
        · exact sane h old
        · rw [List.mem_singleton.1 new]
          exact sane_hired ticket (Broker.address_of_accepted accepted)
      · rw [hired] at member
        rcases List.mem_append.1 member with old | new
        · exact sane h old
        · rw [List.mem_singleton.1 new]
          exact sane_turnedAway target spec stopTimeout e
  | ask place | part place outcome | step place | abort place =>
      exact sane_of_act sane (by rintro _ ⟨⟩) taken
  | publish topic m | failAttempt attempt | failPublish fail | openGate gate =>
      cases taken
      exact sane

/-- The tickets that are held, in the order of the handles. -/
def tickets (s : Site) : List Ticket :=
  s.hands.filterMap fun h => h.worker.ticket

theorem tickets_of_cards (same : s'.hands.map Hand.card = s.hands.map Hand.card) :
    s'.tickets = s.tickets := by
  have held (hands : List Hand) : hands.filterMap (fun h => h.worker.ticket) =
      (hands.map Hand.card).filterMap fun card => card.2.2.2 := by
    rw [List.filterMap_map]
    rfl
  unfold tickets
  rw [held, held, same]

theorem tickets_append (world : World Broker) (hands : List Hand) (h : Hand) :
    tickets ⟨world, hands ++ [h]⟩ = tickets ⟨world, hands⟩ ++ h.worker.ticket.toList :=
  List.filterMap_append

theorem manned_hire (manned : s.world.broker.Manned s.tickets)
    (few : s.world.broker.attempts + 1 < Word.limit) :
    (s.hire stopTimeout target spec).2.world.broker.Manned
      (s.hire stopTimeout target spec).2.tickets := by
  rcases s.hire_cases stopTimeout target spec with ⟨ticket, accepted, hired⟩ | ⟨e, refused, hired⟩
  · rw [hired, tickets_append]
    exact manned.subscribe few accepted
  · have same : s.tickets ++ (Run.turnedAway spec stopTimeout).ticket.toList = s.tickets :=
      List.append_nil _
    rw [hired, tickets_append]
    exact same.symm ▸ manned.refused few refused

theorem manned_part {outcome : StopOutcome} (manned : s.world.broker.Manned s.tickets)
    (few : s.world.broker.attempts < Word.limit)
    (taken : s.act place (.part outcome) = some s') : s'.world.broker.Manned s'.tickets := by
  obtain ⟨h, ticket, there, -, held, rfl⟩ := part_cases taken
  have among : ticket ∈ s.tickets :=
    List.mem_filterMap.2 ⟨h, List.mem_of_getElem? there, held⟩
  have left : (s.hands.set place { h with worker := { h.worker with ticket := none } }).filterMap
      (fun h => h.worker.ticket) = s.tickets.filter (· ≠ ticket) :=
    filterMap_set_of_none there held rfl manned.nodup
  unfold tickets
  rw [left]
  exact manned.part few among

/-- Every event keeps those attached who hold a ticket. -/
theorem manned_of_happen (manned : s.world.broker.Manned s.tickets)
    (taken : s.happen event = some s') (few : s'.world.broker.attempts < Word.limit) :
    s'.world.broker.Manned s'.tickets := by
  have before : s.world.broker.attempts < Word.limit :=
    Nat.lt_of_le_of_lt (attempts_of_happen taken) few
  cases managed : event.isManaged with
  | false =>
      obtain ⟨cards, same | ⟨c, plain, called⟩⟩ := happen_of_unmanaged managed taken
      · rw [same, tickets_of_cards cards]
        exact manned
      · rw [called, tickets_of_cards cards]
        exact Broker.Manned.of_plain (x := ⟨s.world.broker, c⟩) manned before plain
  | true =>
      cases event with
      | hire stopTimeout target spec =>
          cases taken
          exact manned_hire manned (attempts_hire s stopTimeout target spec ▸ few)
      | ask place =>
          obtain ⟨h, there, -, rfl⟩ := ask_cases taken
          have same : tickets { s with
              hands := s.hands.set place { h with worker := h.worker.beginStop.2 } } = s.tickets :=
            filterMap_set_of_same there (Worker.beginStop_ticket h.worker)
          rw [same]
          exact manned
      | part place outcome => exact manned_part manned before taken
      | _ => cases managed

/-! ## Sequences of events -/

theorem Leads.trans (leads : Leads s s') (later : Leads s' s'') : Leads s s'' := by
  induction later with
  | here => exact leads
  | on event _ taken ih => exact .on event ih taken

theorem Leads.sane (leads : Leads s s') (sane : ∀ h ∈ s.hands, h.Sane) : ∀ h ∈ s'.hands, h.Sane := by
  induction leads with
  | here => exact sane
  | on event _ taken ih => exact sane_of_happen ih taken

theorem Leads.manned (leads : Leads s s') (manned : s.world.broker.Manned s.tickets)
    (few : s'.world.broker.attempts < Word.limit) : s'.world.broker.Manned s'.tickets := by
  induction leads with
  | here => exact manned
  | on event _ taken ih =>
      exact manned_of_happen (ih (Nat.lt_of_le_of_lt (attempts_of_happen taken) few)) taken few

theorem Pauses.leads (pauses : Pauses s s') : Leads s s' := by
  induction pauses with
  | here => exact .here
  | on event _ _ taken ih => exact .on event ih taken

theorem Pauses.trans (pauses : Pauses s s') (later : Pauses s' s'') : Pauses s s'' := by
  induction later with
  | here => exact pauses
  | on event _ unmanaged taken ih => exact .on event ih unmanaged taken

theorem leads_hire (s : Site) (stopTimeout : Duration) (target : Target) (spec : WorkerSpec) :
    Leads s (s.hire stopTimeout target spec).2 :=
  .on (.hire stopTimeout target spec) .here rfl

theorem StartsAll.leads {specs : List WorkerSpec} {failures : List Failure}
    (starts : StartsAll stopTimeout target s specs failures s') : Leads s s' := by
  induction starts with
  | done pauses => exact pauses.leads
  | next pauses _ ih => exact (pauses.leads.trans (leads_hire _ _ _ _)).trans ih

theorem Stops.leads {result : Except Failure Unit} (stops : Stops s place result s') :
    Leads s s' := by
  cases stops with
  | marked _ _ asked => exact .on (.ask place) .here asked
  | @waited h h' outcome asked waiting s' _ _ asks pauses _ parts =>
      have first : Leads s asked := .on (.ask place) .here asks
      exact .on (.part place outcome) (first.trans pauses.leads) parts

theorem StopsAll.leads {places : List Nat} {failures : List Failure}
    (stops : StopsAll s places failures s') : Leads s s' := by
  induction stops with
  | done pauses => exact pauses.leads
  | next pauses stops _ ih => exact (pauses.leads.trans stops.leads).trans ih

/-- A pause changes no card and no counter of the broker. -/
theorem Pauses.same (pauses : Pauses s s') :
    s'.hands.map Hand.card = s.hands.map Hand.card ∧
      s'.world.broker.attempts = s.world.broker.attempts ∧
      s'.world.broker.released = s.world.broker.released := by
  induction pauses with
  | here => exact ⟨rfl, rfl, rfl⟩
  | @on s' s'' event _ unmanaged taken ih =>
      obtain ⟨cards, same | ⟨c, plain, called⟩⟩ := happen_of_unmanaged unmanaged taken
      · rw [cards, same]
        exact ih
      · have counted := Moment.attempts_after ⟨s'.world.broker, c⟩
        have other := Call.isSubscribe_of_plain plain
        have released : (s'.world.broker.call c).2.released = s'.world.broker.released := by
          apply Moment.released_after (x := ⟨s'.world.broker, c⟩)
          rintro ticket rfl
          cases plain
        have attempts : (s'.world.broker.call c).2.attempts = s'.world.broker.attempts :=
          counted.trans (by simp [other])
        rw [cards, called, attempts, released]
        exact ih

/-! ## Who is at work -/

theorem map_tickets_eq {hands : List Hand} (sane : ∀ h ∈ hands, h.Sane) (address : Address) :
    ((hands.filterMap fun h => h.worker.ticket).filter fun t => t.address == address).map some =
      (hands.filter fun h => h.target.toAddress == address &&
        (h.worker.isRunning || h.worker.isParting)).map fun h => h.worker.ticket := by
  induction hands with
  | nil => rfl
  | cons h rest ih =>
      obtain ⟨⟨calls, stands⟩, -, posted⟩ := sane h List.mem_cons_self
      have later := ih fun h member => sane h (List.mem_cons_of_mem _ member)
      have holds := stands.holds
      cases held : h.worker.ticket with
      | none =>
          rw [held] at holds
          simp only [List.filterMap_cons, held]
          rw [List.filter_cons_of_neg (by simp [← holds]), later]
      | some ticket =>
          rw [held] at holds
          simp only [List.filterMap_cons, held]
          by_cases here : h.target.toAddress = address
          · rw [List.filter_cons_of_pos (by simp [posted ticket held, here]),
              List.filter_cons_of_pos (by simp [← holds, here]), List.map_cons, List.map_cons, later,
              held]
          · rw [List.filter_cons_of_neg (by simp [posted ticket held, here]),
              List.filter_cons_of_neg (by simp [here]), later]

theorem busyAt_of_quiet (quiet : s.isQuiet = true) (address : Address) :
    s.busyAt address = s.runningAt address := by
  apply List.filter_congr
  intro h member
  have free := List.all_eq_true.1 quiet h member
  rw [Bool.not_eq_true'] at free
  rw [free, Bool.or_false]

/-! ## Starting several workers -/

/-- What handles are like that have been made for some specifications at a target, with these
failures. -/
structure Made (target : Target) (specs : List WorkerSpec) (failures : List Failure)
    (hands : List Hand) : Prop where
  /-- There is one for each specification, in order. -/
  specs : hands.map (fun h => h.worker.spec) = specs
  started : ∀ h ∈ hands, h.target = target ∧ (h.worker.state = .running ∨ h.worker.state = .failed)
  /-- Those that have failed are reported, in order. -/
  failures : List.Forall₂ (fun f name => ∃ e, f = .start name e) failures
    ((hands.filter fun h => h.worker.state == .failed).map fun h => h.worker.spec.name)

theorem Made.append {specs specs' : List WorkerSpec} {failures failures' : List Failure}
    {hands hands' : List Hand} (made : Made target specs failures hands)
    (made' : Made target specs' failures' hands') :
    Made target (specs ++ specs') (failures ++ failures') (hands ++ hands') where
  specs := by rw [List.map_append, made.specs, made'.specs]
  started := by
    intro h member
    rcases List.mem_append.1 member with first | second
    · exact made.started h first
    · exact made'.started h second
  failures := by
    rw [List.filter_append, List.map_append]
    exact List.rel_append made.failures made'.failures

/-- Only what is on the cards matters. -/
theorem Made.of_cards {specs : List WorkerSpec} {failures : List Failure} {hands hands' : List Hand}
    (made : Made target specs failures hands)
    (same : hands'.map Hand.card = hands.map Hand.card) : Made target specs failures hands' where
  specs := by
    rw [← made.specs]
    have on (hands : List Hand) : hands.map (fun h => h.worker.spec) =
        (hands.map Hand.card).map fun card => card.2.1 := by
      rw [List.map_map]
      rfl
    rw [on, on, same]
  started := by
    intro h member
    obtain ⟨g, old, equal⟩ := exists_mem_of_cards same member
    have target : g.target = h.target := congrArg Prod.fst equal
    have state : g.worker.state = h.worker.state := congrArg (fun card => card.2.2.1) equal
    rw [← target, ← state]
    exact made.started g old
  failures := by
    have on (hands : List Hand) :
        (hands.filter fun h => h.worker.state == .failed).map (fun h => h.worker.spec.name) =
          ((hands.map Hand.card).filter fun card => card.2.2.1 == .failed).map
            fun card => card.2.1.name := by
      rw [List.filter_map, List.map_map]
      rfl
    rw [on, same, ← on]
    exact made.failures

/-- A new handle is there for its specification, and its failure is reported. -/
theorem hire_made (s : Site) (stopTimeout : Duration) (target : Target) (spec : WorkerSpec) :
    (s.hire stopTimeout target spec).2.world.broker.attempts = s.world.broker.attempts + 1 ∧
      ∃ h, (s.hire stopTimeout target spec).2.hands = s.hands ++ [h] ∧
        Made target [spec] (Crew.failureOf (s.hire stopTimeout target spec).1) [h] := by
  refine ⟨s.attempts_hire stopTimeout target spec, ?_⟩
  rcases s.hire_cases stopTimeout target spec with ⟨ticket, -, hired⟩ | ⟨e, -, hired⟩
  · rw [hired]
    refine ⟨_, rfl, rfl, ?_, .nil⟩
    intro h member
    rw [List.mem_singleton.1 member]
    exact ⟨rfl, .inl rfl⟩
  · rw [hired]
    refine ⟨_, rfl, rfl, ?_, .cons ⟨e, rfl⟩ .nil⟩
    intro h member
    rw [List.mem_singleton.1 member]
    exact ⟨rfl, .inr rfl⟩

theorem StartsAll.made {specs : List WorkerSpec} {failures : List Failure}
    (starts : StartsAll stopTimeout target s specs failures s') :
    s'.world.broker.attempts = s.world.broker.attempts + specs.length ∧
      ∃ old new, s'.hands = old ++ new ∧ old.map Hand.card = s.hands.map Hand.card ∧
        Made target specs failures new := by
  induction starts with
  | @done s s' pauses =>
      obtain ⟨cards, attempts, -⟩ := pauses.same
      have none : Made target [] [] [] := ⟨rfl, fun _ member => absurd member List.not_mem_nil, .nil⟩
      refine ⟨?_, s'.hands, [], (List.append_nil _).symm, cards, none⟩
      rw [attempts, List.length_nil, Nat.add_zero]
  | @next s before s' spec specs failures pauses _ ih =>
      obtain ⟨cards, attempts, -⟩ := pauses.same
      obtain ⟨counted, h, added, first⟩ := before.hire_made stopTimeout target spec
      obtain ⟨counted', old, new, hands, kept, made⟩ := ih
      rw [added, List.map_append] at kept
      obtain ⟨old, last, rfl, same, card⟩ := List.map_eq_append_iff.1 kept
      refine ⟨?_, old, last ++ new, by rw [hands, List.append_assoc], same.trans cards,
        (first.of_cards card).append made⟩
      rw [counted', counted, attempts, List.length_cons]
      omega

/-- Starting all of a crew without a pause is one way to do it. -/
theorem startsAll_crew (s : Site) (stopTimeout : Duration) (target : Target)
    (specs : List WorkerSpec) :
    let crew := Crew.startAll Broker.client stopTimeout target specs s.world.broker
    StartsAll stopTimeout target s specs crew.1.2
      ⟨s.world.withBroker crew.2, s.hands ++ crew.1.1.map (Hand.mk target)⟩ := by
  induction specs generalizing s with
  | nil =>
      have still : (⟨s.world, s.hands ++ []⟩ : Site) = s := by rw [List.append_nil]
      exact .done (still.symm ▸ .here)
  | cons spec specs ih =>
      have joined : (s.hire stopTimeout target spec).2.hands = s.hands ++
          [⟨target, (Worker.start Broker.client target { spec, stopTimeout } s.world.broker).2.1⟩] :=
        rfl
      have started := StartsAll.next (s := s) .here (ih (s.hire stopTimeout target spec).2)
      rw [joined, List.append_assoc] at started
      exact started

/-! ## Stopping several workers -/

/-- The handle at a place has been stopped for good. -/
def Dismissed (s : Site) (place : Nat) : Prop :=
  ∃ h, s.hands[place]? = some h ∧ h.worker.state = .stopped ∧ h.worker.ticket = none

/-- The handle at a place can be called: no stop of it is under way. -/
def Free (s : Site) (place : Nat) : Prop :=
  ∃ h, s.hands[place]? = some h ∧ h.worker.isParting = false

theorem Dismissed.free (dismissed : s.Dismissed place) : s.Free place := by
  obtain ⟨h, there, state, ticket⟩ := dismissed
  exact ⟨h, there, by simp [Worker.isParting, ticket]⟩

/-- What is on the cards is found on them later. -/
theorem exists_of_cards (same : s'.hands.map Hand.card = s.hands.map Hand.card) {h : Hand}
    (there : s.hands[place]? = some h) : ∃ h', s'.hands[place]? = some h' ∧ h'.card = h.card := by
  have card : (s'.hands.map Hand.card)[place]? = some h.card := by
    rw [same, List.getElem?_map, there, Option.map_some]
  rw [List.getElem?_map] at card
  exact Option.map_eq_some_iff.1 card

theorem isParting_of_card {h h' : Hand} (card : h'.card = h.card) :
    h'.worker.isParting = h.worker.isParting := by
  have state : h'.worker.state = h.worker.state := congrArg (fun card => card.2.2.1) card
  have ticket : h'.worker.ticket = h.worker.ticket := congrArg (fun card => card.2.2.2) card
  rw [Worker.isParting, Worker.isParting, state, ticket]

theorem Free.of_cards (free : s.Free place)
    (same : s'.hands.map Hand.card = s.hands.map Hand.card) : s'.Free place := by
  obtain ⟨h, there, free⟩ := free
  obtain ⟨h', there', card⟩ := exists_of_cards same there
  exact ⟨h', there', (isParting_of_card card).trans free⟩

/-- What happens to one worker changes no other handle. -/
theorem getElem?_act {doing : Worker.Event Broker} {i : Nat}
    (taken : s.act place doing = some s') (other : i ≠ place) : s'.hands[i]? = s.hands[i]? := by
  obtain ⟨h, w, world, -, -, rfl⟩ := exists_of_act taken
  exact List.getElem?_set_ne (Ne.symm other)

theorem Dismissed.act {doing : Worker.Event Broker} {i : Nat} (dismissed : s.Dismissed i)
    (taken : s.act place doing = some s') : s'.Dismissed i := by
  by_cases here : i = place
  · subst here
    obtain ⟨h, there, state, ticket⟩ := dismissed
    obtain ⟨h', w, world, there', happened, rfl⟩ := exists_of_act taken
    obtain rfl := Option.some.inj (there.symm.trans there')
    obtain ⟨state', ticket'⟩ := (Worker.happening_of_happen happened).over state ticket
    have inside := (List.getElem?_eq_some_iff.1 there).1
    exact ⟨_, List.getElem?_set_self inside, state', ticket'⟩
  · obtain ⟨h, there, gone⟩ := dismissed
    exact ⟨h, (getElem?_act taken here).trans there, gone⟩

theorem Dismissed.happen (dismissed : s.Dismissed place) (taken : s.happen event = some s') :
    s'.Dismissed place := by
  cases event with
  | ask | part | step | abort => exact dismissed.act taken
  | publish | failAttempt | failPublish | openGate =>
      cases taken
      exact dismissed
  | hire stopTimeout target spec =>
      cases taken
      obtain ⟨h, there, gone⟩ := dismissed
      have inside := (List.getElem?_eq_some_iff.1 there).1
      exact ⟨h, (List.getElem?_append_left inside).trans there, gone⟩

theorem Leads.dismissed (leads : Leads s s') (dismissed : s.Dismissed place) :
    s'.Dismissed place := by
  induction leads with
  | here => exact dismissed
  | on event _ taken ih => exact ih.happen taken

/-- A stop leaves its handle stopped. -/
theorem Stops.dismissed {result : Except Failure Unit} (stops : Stops s place result s')
    (sane : ∀ h ∈ s.hands, h.Sane) : s'.Dismissed place := by
  cases stops with
  | marked there quick asked =>
      obtain ⟨h, there', free, rfl⟩ := ask_cases asked
      obtain rfl := Option.some.inj (there.symm.trans there')
      obtain ⟨⟨calls, stands⟩, -, -⟩ := sane _ (List.mem_of_getElem? there)
      have gone := stands.ticket_of_mark free (Prod.ext quick rfl)
      have inside := (List.getElem?_eq_some_iff.1 there).1
      exact ⟨_, List.getElem?_set_self inside, gone⟩
  | waited _ _ _ _ _ parts =>
      obtain ⟨h, ticket, there, state, -, rfl⟩ := part_cases parts
      have inside := (List.getElem?_eq_some_iff.1 there).1
      exact ⟨_, List.getElem?_set_self inside, state, rfl⟩

/-- Where several are stopped, each of them is. -/
theorem StopsAll.dismissed {places : List Nat} {failures : List Failure}
    (stops : StopsAll s places failures s') (sane : ∀ h ∈ s.hands, h.Sane) :
    ∀ place ∈ places, s'.Dismissed place := by
  induction stops with
  | done => exact fun _ member => absurd member List.not_mem_nil
  | next pauses first rest ih =>
      have here := pauses.leads.sane sane
      intro place member
      rcases List.mem_cons.1 member with rfl | later
      · exact rest.leads.dismissed (first.dismissed here)
      · exact ih (first.leads.sane here) place later

/-- Stopping once more has nothing to wait for, and nothing to give back. -/
theorem Stops.again {result : Except Failure Unit} (stops : Stops s place result s')
    (dismissed : s.Dismissed place) :
    result = .ok () ∧ s'.world.broker.released = s.world.broker.released := by
  obtain ⟨h, there, state, -⟩ := dismissed
  have quick : h.worker.beginStop.1 = false := by simp [Worker.beginStop, state]
  cases stops with
  | marked _ _ asked =>
      obtain ⟨-, -, -, rfl⟩ := ask_cases asked
      exact ⟨rfl, rfl⟩
  | waited there' waits =>
      obtain rfl := Option.some.inj (there.symm.trans there')
      cases quick.symm.trans waits

theorem StopsAll.again {places : List Nat} {failures : List Failure}
    (stops : StopsAll s places failures s') (dismissed : ∀ place ∈ places, s.Dismissed place) :
    failures = [] ∧ s'.world.broker.released = s.world.broker.released := by
  induction stops with
  | done pauses => exact ⟨rfl, pauses.same.2.2⟩
  | next pauses first rest ih =>
      have here := fun place member => pauses.leads.dismissed (dismissed place member)
      obtain ⟨rfl, released⟩ := first.again (here _ List.mem_cons_self)
      obtain ⟨rfl, released'⟩ := ih fun place member =>
        first.leads.dismissed (here place (List.mem_cons_of_mem _ member))
      exact ⟨rfl, released'.trans (released.trans pauses.same.2.2)⟩

/-! ## Quiet -/

theorem isQuiet_iff : s.isQuiet = true ↔ ∀ h ∈ s.hands, h.worker.isParting = false := by
  simp [isQuiet]

/-- Handles with the cards of others are as quiet as these. -/
theorem isParting_of_cards {hands hands' : List Hand}
    (quiet : ∀ h ∈ hands, h.worker.isParting = false)
    (same : hands'.map Hand.card = hands.map Hand.card) {h : Hand} (member : h ∈ hands') :
    h.worker.isParting = false := by
  obtain ⟨g, before, equal⟩ := exists_mem_of_cards same member
  rw [← isParting_of_card equal]
  exact quiet g before

theorem StartsAll.quiet {specs : List WorkerSpec} {failures : List Failure}
    (starts : StartsAll stopTimeout target s specs failures s') (quiet : s.isQuiet = true) :
    s'.isQuiet = true := by
  rw [isQuiet_iff] at quiet ⊢
  obtain ⟨-, old, new, hands, cards, made⟩ := starts.made
  intro h member
  rw [hands] at member
  rcases List.mem_append.1 member with known | new
  · exact isParting_of_cards quiet cards known
  · unfold Worker.isParting
    rcases (made.started h new).2 with state | state <;> rw [state] <;> rfl

theorem length_act {doing : Worker.Event Broker} (taken : s.act place doing = some s') :
    s'.hands.length = s.hands.length := by
  obtain ⟨h, w, world, -, -, rfl⟩ := exists_of_act taken
  exact List.length_set

theorem Stops.length {result : Except Failure Unit} (stops : Stops s place result s') :
    s'.hands.length = s.hands.length := by
  cases stops with
  | marked _ _ asked => exact length_act asked
  | waited _ _ asks pauses _ parts =>
      have paused := congrArg List.length pauses.same.1
      rw [List.length_map, List.length_map] at paused
      rw [length_act parts, paused, length_act asks]

/-- A stop is no obstacle for others, nor for one more of the same handle. -/
theorem Free.stops {i : Nat} {result : Except Failure Unit} (free : s.Free i)
    (stops : Stops s place result s') (sane : ∀ h ∈ s.hands, h.Sane) : s'.Free i := by
  by_cases here : i = place
  · subst here
    exact (stops.dismissed sane).free
  · obtain ⟨h, there, free⟩ := free
    cases stops with
    | marked _ _ asked => exact ⟨h, (getElem?_act asked here).trans there, free⟩
    | @waited _ _ _ asked _ _ _ _ asks pauses _ parts =>
        have still : asked.Free i := ⟨h, (getElem?_act asks here).trans there, free⟩
        obtain ⟨h', there', free'⟩ := still.of_cards pauses.same.1
        exact ⟨h', (getElem?_act parts here).trans there', free'⟩

theorem Pauses.quiet (pauses : Pauses s s') (quiet : s.isQuiet = true) : s'.isQuiet = true :=
  isQuiet_iff.2 fun _ => isParting_of_cards (isQuiet_iff.1 quiet) pauses.same.1

theorem Stops.quiet {result : Except Failure Unit} (stops : Stops s place result s')
    (sane : ∀ h ∈ s.hands, h.Sane) (quiet : s.isQuiet = true) : s'.isQuiet = true := by
  rw [isQuiet_iff] at quiet ⊢
  intro h member
  obtain ⟨i, inside, rfl⟩ := List.getElem_of_mem member
  have before : i < s.hands.length := stops.length ▸ inside
  have free : s.Free i :=
    ⟨_, List.getElem?_eq_getElem before, quiet _ (List.getElem_mem before)⟩
  obtain ⟨h', there, still⟩ := free.stops stops sane
  rw [List.getElem?_eq_getElem inside] at there
  rw [Option.some.inj there]
  exact still

theorem StopsAll.quiet {places : List Nat} {failures : List Failure}
    (stops : StopsAll s places failures s') (sane : ∀ h ∈ s.hands, h.Sane)
    (quiet : s.isQuiet = true) : s'.isQuiet = true := by
  induction stops with
  | done pauses => exact pauses.quiet quiet
  | next pauses first _ ih =>
      have here := pauses.leads.sane sane
      exact ih (first.leads.sane here) (first.quiet here (pauses.quiet quiet))

/-! ## Every stop can come to its end -/

theorem act_of_happen {doing : Worker.Event Broker} {h : Hand} {w : Worker} {world : World Broker}
    (there : s.hands[place]? = some h)
    (happened : h.worker.happen Broker.client s.world doing = some (w, world)) :
    s.act place doing = some ⟨world, s.hands.set place { h with worker := w }⟩ := by
  unfold act
  rw [there]
  dsimp only
  rw [happened]
  rfl

/-- What a delivery loop does to come to its end is a pause of whoever waits for it. -/
theorem exists_pause {own : List (Worker.Event Broker)} {outcome : StopOutcome} {h : Hand}
    (there : s.hands[place]? = some h) (owns : ∀ event ∈ own, event = .step ∨ event = .abort)
    (run : (h.worker.happenAll Broker.client s.world (own ++ [.part outcome])).isSome) :
    ∃ waiting s' h', Pauses s waiting ∧ waiting.hands[place]? = some h' ∧
      waiting.act place (.part outcome) = some s' := by
  induction own generalizing s h with
  | nil =>
      obtain ⟨⟨w, world⟩, parts⟩ := Option.isSome_iff_exists.1 run
      obtain ⟨⟨w', world'⟩, happened, -⟩ := Option.bind_eq_some_iff.1 parts
      exact ⟨s, _, h, .here, there, act_of_happen there happened⟩
  | cons event rest ih =>
      obtain ⟨⟨w, world⟩, parts⟩ := Option.isSome_iff_exists.1 run
      obtain ⟨⟨w', world'⟩, happened, later⟩ := Option.bind_eq_some_iff.1 parts
      have inside := (List.getElem?_eq_some_iff.1 there).1
      have first : Pauses s ⟨world', s.hands.set place { h with worker := w' }⟩ := by
        rcases owns event List.mem_cons_self with rfl | rfl
        · exact .on (.step place) .here rfl (act_of_happen there happened)
        · exact .on (.abort place) .here rfl (act_of_happen there happened)
      obtain ⟨waiting, s', h', pauses, there', parted⟩ :=
        ih (s := ⟨world', s.hands.set place { h with worker := w' }⟩)
          (List.getElem?_set_self inside) (fun event member => owns event
            (List.mem_cons_of_mem _ member)) (Option.isSome_iff_exists.2 ⟨_, later⟩)
      exact ⟨waiting, s', h', first.trans pauses, there', parted⟩

theorem exists_stops (sane : ∀ h ∈ s.hands, h.Sane) (free : s.Free place) :
    ∃ result s', Stops s place result s' := by
  obtain ⟨h, there, free⟩ := free
  have inside := (List.getElem?_eq_some_iff.1 there).1
  have happened : h.worker.happen Broker.client s.world .ask =
      some (h.worker.beginStop.2, s.world) := by
    simp [Worker.happen, free]
  have asks := act_of_happen there happened
  cases waits : h.worker.beginStop.1 with
  | false => exact ⟨_, _, .marked there waits asks⟩
  | true =>
      obtain ⟨⟨calls, stands⟩, -, -⟩ := sane h (List.mem_of_getElem? there)
      have begun : h.worker.beginStop = (true, h.worker.beginStop.2) := Prod.ext waits rfl
      have stands' := stands.ask begun
      have parting : h.worker.beginStop.2.isParting = true := by
        have held := stands.holds
        rw [Worker.isRunning, Worker.beginStop_eq_true begun] at held
        rw [Worker.isParting, Worker.beginStop_state, Worker.beginStop_ticket, held]
        rfl
      obtain ⟨l, loop⟩ := stands'.loop_of_parting parting
      have can : Worker.CanPart Broker.client { h.worker.beginStop.2 with loop := some l }
          s.world 3 :=
        Worker.canPart_of_parting parting l
      rw [← loop] at can
      obtain ⟨own, outcome, -, owns, ends⟩ := can
      obtain ⟨waiting, s', h', pauses, there', parts⟩ :=
        exists_pause (s := ⟨s.world, s.hands.set place { h with worker := h.worker.beginStop.2 }⟩)
          (List.getElem?_set_self inside) owns ends
      exact ⟨_, s', .waited there waits asks pauses there' parts⟩

theorem exists_stopsAll {places : List Nat} (sane : ∀ h ∈ s.hands, h.Sane)
    (free : ∀ place ∈ places, s.Free place) : ∃ failures s', StopsAll s places failures s' := by
  induction places generalizing s with
  | nil => exact ⟨[], s, .done .here⟩
  | cons place places ih =>
      obtain ⟨result, after, stops⟩ := exists_stops sane (free place List.mem_cons_self)
      obtain ⟨failures, s', rest⟩ := ih (stops.leads.sane sane) fun i member =>
        (free i (List.mem_cons_of_mem _ member)).stops stops sane
      exact ⟨_, s', .next .here stops rest⟩

/-! ## The whole -/

theorem leads_of_happenAll {events : List Event} (run : s.happenAll events = some s') :
    Leads s s' := by
  induction events generalizing s with
  | nil =>
      cases run
      exact .here
  | cons event rest ih =>
      obtain ⟨next, taken, later⟩ := Option.bind_eq_some_iff.1 run
      have first : Leads s next := .on event .here taken
      exact first.trans (ih later)

/-- The consumers attached to the broker are the handles that are at work. -/
structure Attended (s : Site) : Prop where
  distinct : ∀ address, (s.world.broker.ticketsAt address).Nodup
  /-- One for each handle that is running or whose stop is under way, with its ticket. -/
  busy : ∀ address, (s.world.broker.ticketsAt address).map some =
    (s.busyAt address).map fun h => h.worker.ticket
  /-- One for each handle that is running, if no stop is under way. -/
  running : s.isQuiet = true → ∀ address, (s.world.broker.ticketsAt address).map some =
    (s.runningAt address).map fun h => h.worker.ticket

theorem attended_of_manned (manned : s.world.broker.Manned s.tickets)
    (sane : ∀ h ∈ s.hands, h.Sane) : s.Attended := by
  have busy (address : Address) : (s.world.broker.ticketsAt address).map some =
      (s.busyAt address).map fun h => h.worker.ticket := by
    rw [manned.attached]
    exact map_tickets_eq sane address
  refine ⟨fun address => .of_map _ (manned.distinct address), busy, fun quiet address => ?_⟩
  rw [busy, busyAt_of_quiet quiet]

/-- **The consumers attached are the workers at work**, at every moment around a new broker, whatever
subscribes have been arranged to fail. Starting several workers attempts every subscribe and returns
a handle for each specification, with the failures of those that have failed; stopping several leaves
all of them stopped, and to stop them again, at any later time, gives no failure and releases
nothing. Both can always be done, and neither leaves a stop under way. -/
theorem attached_consumers_are_the_workers_at_work {world : World Broker} (new : world.broker = {})
    (reached : Leads ⟨world, []⟩ s) (few : s.world.broker.attempts < Word.limit) :
    s.Attended ∧
      (∀ stopTimeout target specs failures s', StartsAll stopTimeout target s specs failures s' →
        Leads s s' ∧ (s.isQuiet = true → s'.isQuiet = true) ∧
        s'.world.broker.attempts = s.world.broker.attempts + specs.length ∧
        ∃ old new, s'.hands = old ++ new ∧ old.map Hand.card = s.hands.map Hand.card ∧
          Made target specs failures new) ∧
      (∀ stopTimeout target specs,
        let crew := Crew.startAll Broker.client stopTimeout target specs s.world.broker
        StartsAll stopTimeout target s specs crew.1.2
          ⟨s.world.withBroker crew.2, s.hands ++ crew.1.1.map (Hand.mk target)⟩) ∧
      (∀ places failures s', StopsAll s places failures s' →
        Leads s s' ∧ (s.isQuiet = true → s'.isQuiet = true) ∧
        (∀ place ∈ places, s'.Dismissed place) ∧
        ∀ later failures' s'', Leads s' later → StopsAll later places failures' s'' →
          failures' = [] ∧ s''.world.broker.released = later.world.broker.released) ∧
      ∀ places, (∀ place ∈ places, s.Free place) → ∃ failures s', StopsAll s places failures s' := by
  have start : world.broker.Manned [] := new ▸ Broker.manned_new
  have sane : ∀ h ∈ s.hands, h.Sane := reached.sane fun _ member => absurd member List.not_mem_nil
  refine ⟨attended_of_manned (reached.manned start few) sane, ?_, ?_, ?_, ?_⟩
  · intro stopTimeout target specs failures s' starts
    exact ⟨starts.leads, starts.quiet, starts.made⟩
  · exact fun stopTimeout target specs => s.startsAll_crew stopTimeout target specs
  · intro places failures s' stops
    refine ⟨stops.leads, stops.quiet sane, stops.dismissed sane, ?_⟩
    intro later failures' s'' leads again
    exact again.again fun place member => leads.dismissed (stops.dismissed sane place member)
  · exact fun places free => exists_stopsAll sane free

def paymentsTarget : Target := ⟨⟨"payments", "audit"⟩, .shared⟩

/-- Of three workers for one subscription, the second is turned away on purpose and the third for its
mode; the first is stopped while it handles a message, and then once more. -/
def troubledEvents : List Event :=
  let stopTimeout := Duration.ofSecs 5
  [.failAttempt 2, .hire stopTimeout Worker.auditTarget { name := "a" },
    .hire stopTimeout Worker.auditTarget { name := "b" },
    .hire stopTimeout { Worker.auditTarget with mode := .keyShared } { name := "c" },
    .hire stopTimeout paymentsTarget { name := "d" },
    .publish "orders" ⟨.ofNat 0, "note", none⟩, .step 0, .ask 0, .abort 0, .part 0 .timedOut,
    .ask 0]

theorem attendance_after_trouble :
    ∃ s, Leads ⟨{ broker := {} }, []⟩ s ∧ s.world.broker.attempts < Word.limit ∧ s.Attended ∧
      s.hands.map (fun h => h.worker.state) = [.stopped, .failed, .failed, .running] ∧
      s.world.broker.ticketsAt Worker.auditTarget.toAddress = [] ∧
      (s.world.broker.ticketsAt paymentsTarget.toAddress).length = 1 ∧
      ∃ failures s', StopsAll s [3, 0] failures s' ∧
        ∀ failures' s'', StopsAll s' [3, 0] failures' s'' → failures' = [] := by
  have facts : (happenAll ⟨{ broker := {} }, []⟩ troubledEvents).map (fun s =>
      (s.world.broker.attempts, s.isQuiet, s.hands.map fun h => h.worker.state,
        (s.runningAt Worker.auditTarget.toAddress).length,
        (s.runningAt paymentsTarget.toAddress).length)) =
      some (4, true, [.stopped, .failed, .failed, .running], 0, 1) := by
    decide +kernel
  obtain ⟨s, run, seen⟩ := Option.map_eq_some_iff.1 facts
  obtain ⟨attempts, quiet, states, audit, payments⟩ : s.world.broker.attempts = 4 ∧
      s.isQuiet = true ∧ s.hands.map (fun h => h.worker.state) =
        [.stopped, .failed, .failed, .running] ∧
      (s.runningAt Worker.auditTarget.toAddress).length = 0 ∧
      (s.runningAt paymentsTarget.toAddress).length = 1 := by
    simpa using seen
  have reached : Leads ⟨{ broker := {} }, []⟩ s := leads_of_happenAll run
  have few : s.world.broker.attempts < Word.limit := by
    rw [attempts]
    decide
  obtain ⟨attended, -, -, stops, stoppable⟩ :=
    attached_consumers_are_the_workers_at_work rfl reached few
  have count (address : Address) : (s.world.broker.ticketsAt address).length =
      (s.runningAt address).length := by
    have same := congrArg List.length (attended.running quiet address)
    rwa [List.length_map, List.length_map] at same
  have free : ∀ place ∈ [3, 0], s.Free place := by
    intro place member
    have inside : place < s.hands.length := by
      have length := congrArg List.length states
      rw [List.length_map] at length
      rcases List.mem_cons.1 member with rfl | other
      · rw [length]
        decide
      · rw [List.mem_singleton.1 other, length]
        decide
    exact ⟨_, List.getElem?_eq_getElem inside, isQuiet_iff.1 quiet _ (List.getElem_mem inside)⟩
  obtain ⟨failures, s', stopped⟩ := stoppable [3, 0] free
  refine ⟨s, reached, few, attended, states, List.length_eq_zero_iff.1 ((count _).trans audit),
    (count _).trans payments, failures, s', stopped, ?_⟩
  intro failures' s'' again
  exact ((stops _ _ _ stopped).2.2.2 s' failures' s'' .here again).1

end Site

end DeliveryBench
