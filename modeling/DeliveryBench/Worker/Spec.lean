import DeliveryBench.Message
import DeliveryBench.Signal

/-!
What a worker is told before it starts, and how it judges a delivery.

A `Handler` is any function from the worker, the number of its earlier calls and the message to a
`Reaction`, so it covers callbacks that remember what they have seen. `WorkerSpec.react` looks at
the expected payloads first: a payload outside a list that is not empty is an error of the
delivery, and the handler is not called.

Caveat: a `Verdict` tells apart how the handling of a message ends and whether a text can be made of
the error. Errors and panics that break down when they are discarded are left out, and so are errors
whose text never comes to an end; in the first case the loop would break down, in the second it
would stay at the delivery for good.
-/

namespace DeliveryBench

/-- How the handling of a message ends. -/
inductive Verdict where
  | ok
  | error (reason : String)
  /-- An error of which no text can be made: the attempt panics, with this text if it is one. -/
  | unprintable (text : Option String)
  /-- A panic of the handler, with this text if it is one. -/
  | panic (text : Option String)
deriving DecidableEq, Repr

/-- What a handler does with a message: how it ends, and the gate that must be open before. -/
structure Reaction where
  verdict : Verdict := .ok
  gate : Option String := none
deriving DecidableEq, Repr

/-- A callback: the worker's name, the number of earlier calls, the message. -/
abbrev Handler := String → Nat → Message → Reaction

/-- The place of a completion signal among those of a run. -/
abbrev SignalId := Nat

/-- The description of one worker. -/
structure WorkerSpec where
  name : String
  handler : Option Handler := none
  /-- The signal on which each of its deliveries is counted. -/
  signal : Option SignalId := none
  /-- If this is not empty, other payloads are errors. -/
  expected : List String := []

namespace WorkerSpec

/-- Whether a payload may be delivered to this worker. -/
def admits (spec : WorkerSpec) (payload : String) : Bool :=
  spec.expected.isEmpty || spec.expected.contains payload

/-- The error of a payload that was not expected. -/
def unexpectedReason (spec : WorkerSpec) (payload : String) : String :=
  "unexpected payload `" ++ payload ++ "`, expected one of " ++ Text.quotedList spec.expected

/-- Whether the handler is called on a message. -/
def calls (spec : WorkerSpec) (m : Message) : Bool :=
  spec.admits m.payload && spec.handler.isSome

/-- What comes of a message, after so many calls of the handler. -/
def react (spec : WorkerSpec) (earlier : Nat) (m : Message) : Reaction :=
  if spec.admits m.payload then
    match spec.handler with
    | none => {}
    | some handler => handler spec.name earlier m
  else { verdict := .error (spec.unexpectedReason m.payload) }

/-- The specification in brief, for one without a signal. -/
def brief (spec : WorkerSpec) : String :=
  "WorkerSpec \x7b id: WorkerId(" ++ Text.quoted spec.name ++ "), has_handler: "
    ++ (if spec.handler.isSome then "true" else "false") ++ ", signal: None, expected_payloads: "
    ++ Text.quotedList spec.expected ++ " \x7d"

end WorkerSpec

namespace Verdict

/-- The reason under which a delivery is recorded as failed. -/
def failure? : Verdict → Option String
  | .ok | .unprintable _ => none
  | .error reason => some reason
  | .panic (some text) => some ("handler panicked: " ++ text)
  | .panic none => some "handler panicked: non-string panic payload"

end Verdict

end DeliveryBench
