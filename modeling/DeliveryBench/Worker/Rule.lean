import DeliveryBench.Worker.Spec

/-!
Handlers given by rules: the first rule that fits a message's payload says what happens.
-/

namespace DeliveryBench

/-- What a rule makes of a message. -/
inductive Action where
  /-- The same for every message. -/
  | always (reaction : Reaction)
  /-- An error that tells what was delivered to whom. -/
  | echo

/-- A rule for one payload, or for all. -/
structure Rule where
  payload : Option String
  action : Action

namespace Rule

/-- Whether a rule applies to a message. -/
def fits (rule : Rule) (m : Message) : Bool :=
  match rule.payload with
  | none => true
  | some payload => payload == m.payload

/-- The text of an echo. -/
def echoText (worker : String) (m : Message) : String :=
  worker ++ "|" ++ m.payload ++ "|" ++ Text.quotedOption m.key

/-- What a rule makes of a message. -/
def react (rule : Rule) (worker : String) (m : Message) : Reaction :=
  match rule.action with
  | .always reaction => reaction
  | .echo => { verdict := .error (echoText worker m) }

end Rule

/-- The handler that follows a list of rules; a message that fits none is fine. -/
def Handler.ofRules (rules : List Rule) : Handler := fun worker _ m =>
  match rules.find? fun rule => rule.fits m with
  | none => {}
  | some rule => rule.react worker m

end DeliveryBench
