import DeliveryBench.Worker.Life

/-!
Delivery loops side by side, whoever has set them going.

A `Floor` is the world at a moment, with all delivery loops that have been at work in it.
`Floor.happen` is what one event makes of it: a loop more, a step of a loop, a request to stop, an
abort, or something that others do to the world (`Elsewhere`), who write nothing into the journal.
Several loops may bear the same name. Events of different loops come in any order (`Floor.Leads`).
-/

namespace DeliveryBench

/-- A world with the delivery loops that have been set going in it, in order. -/
structure Floor (σ : Type) where
  world : World σ
  loops : List Loop := []

namespace Floor

variable {σ : Type}

/-- Something that happens on a floor. -/
inductive Event (σ : Type) where
  /-- A delivery loop is set going. -/
  | join (spec : WorkerSpec) (ticket : Ticket)
  /-- The loop at a place takes a step. -/
  | step (place : Nat)
  /-- The loop at a place is asked to stop. -/
  | ask (place : Nat)
  /-- The loop at a place is aborted. -/
  | abort (place : Nat)
  | others (doing : Elsewhere σ)

/-- Lets the loop at a place do something. -/
def act (f : Floor σ) (place : Nat) (deed : Loop → World σ → Option (Loop × World σ)) :
    Option (Floor σ) :=
  match f.loops[place]? with
  | none => none
  | some l => (deed l f.world).map fun next =>
    { world := next.2, loops := f.loops.set place next.1 }

/-- What an event makes of a floor, if it can happen. -/
def happen (client : Client σ) (f : Floor σ) : Event σ → Option (Floor σ)
  | .join spec ticket => some { f with loops := f.loops ++ [{ spec, ticket }] }
  | .step place => f.act place fun l world => l.step client world
  | .ask place => f.act place fun l world => some ({ l with stopRequested := true }, world)
  | .abort place => f.act place fun l world => l.abort?.map fun l => (l, world)
  | .others doing =>
    if doing.recorder?.isSome then none else some { f with world := doing.apply f.world }

/-- What a sequence of events makes of a floor, if each can happen. -/
def happenAll (client : Client σ) (f : Floor σ) (events : List (Event σ)) : Option (Floor σ) :=
  events.foldlM (happen client) f

/-- Events lead from a floor to what becomes of it. -/
inductive Leads (client : Client σ) (f : Floor σ) : Floor σ → Prop where
  | here : Leads client f f
  | on {f' f'' : Floor σ} (event : Event σ) : Leads client f f' →
    f'.happen client event = some f'' → Leads client f f''

end Floor

end DeliveryBench
