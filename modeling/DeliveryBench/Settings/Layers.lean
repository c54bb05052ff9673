import DeliveryBench.Settings.Environment

/-!
What the layers of settings come to, one setting at a time.

A setting bears the name of its variable. `Variable.reading` is what a text means for it, and
`Variable.meaning?` what a value in a document means for it. `Settings.layered?` is the value that it
comes to have: the variable's if this is set to a text, else the document's if that has an entry for
it, else the default. No other setting is looked at.

`Settings.Fails` says what is wrong where no settings can be had: first the file, then the first
variable with a bad value, then what has come out. `Settings.DocumentStops` and
`Settings.EnvironmentStops` say where nothing is reported, for reading does not come to an end.
-/

namespace DeliveryBench

namespace Variable

/-- The variables in the order in which they are looked at. -/
def all : List Variable :=
  [.waitTimeout, .stopTimeout, .startupSettle, .publishMode, .failOnHandlerError]

/-- The name under which a document has the setting. -/
def key : Variable → String
  | .waitTimeout => "wait_timeout"
  | .stopTimeout => "stop_timeout"
  | .startupSettle => "startup_settle"
  | .publishMode => "publish_mode"
  | .failOnHandlerError => "fail_on_handler_error"

/-- What a setting can be. -/
def Value : Variable → Type
  | .waitTimeout | .stopTimeout | .startupSettle => Duration
  | .publishMode => PublishMode
  | .failOnHandlerError => Bool

/-! ## Texts -/

/-- What a text means as a duration. -/
def readingOfDuration (text : List Char) : Except ValueFault Duration :=
  match Duration.readHuman text with
  | .ok d => .ok d
  | .error fault => .error (.duration fault)

/-- What a text means for a setting, if there are no blanks around it. -/
def reading : (var : Variable) → List Char → Except ValueFault var.Value
  | .waitTimeout, text => readingOfDuration text
  | .stopTimeout, text => readingOfDuration text
  | .startupSettle, text => readingOfDuration text
  | .publishMode, text =>
    match PublishMode.ofName? (String.ofList text) with
    | some mode => .ok mode
    | none => .error .publishMode
  | .failOnHandlerError, text =>
    if text = "true".toList then .ok true
    else if text = "false".toList then .ok false
    else .error .flag

/-- Whether a setting is a duration. -/
def isDuration : Variable → Bool
  | .waitTimeout | .stopTimeout | .startupSettle => true
  | _ => false

/-- Whether a text is one at which the whole program stops. -/
def Stops (var : Variable) (text : List Char) : Prop :=
  var.reading text = .error (.duration .carryOverflow)

/-! ## Values in a document -/

/-- What a value in a document means as a duration. -/
def meaningOfDuration? : Toml.Node → Option Duration
  | .text s => (Duration.readHuman s.toList).toOption
  | _ => none

/-- What a value in a document means as a mode. This may also be a table of one entry. -/
def meaningOfMode? : Toml.Node → Option PublishMode
  | .text s => PublishMode.ofName? s
  | .table _ fields => Settings.modeOfFields fields
  | _ => none

/-- What a value in a document means as a flag. -/
def meaningOfFlag? : Toml.Node → Option Bool
  | .boolean b => some b
  | _ => none

/-- What a value in a document means for a setting. -/
def meaning? : (var : Variable) → Toml.Node → Option var.Value
  | .waitTimeout, value => meaningOfDuration? value
  | .stopTimeout, value => meaningOfDuration? value
  | .startupSettle, value => meaningOfDuration? value
  | .publishMode, value => meaningOfMode? value
  | .failOnHandlerError, value => meaningOfFlag? value

end Variable

namespace Settings

/-- What a setting is. -/
def get (s : Settings) : (var : Variable) → var.Value
  | .waitTimeout => s.waitTimeout
  | .stopTimeout => s.stopTimeout
  | .startupSettle => s.startupSettle
  | .publishMode => s.publishMode
  | .failOnHandlerError => s.failOnHandlerError

/-! ## Layers -/

/-- The entries of a file, if it is a document. Where there is no file, there are none. -/
def entries? : Option FileContent → Option Toml.Fields
  | none => some []
  | some .unreadable => none
  | some (.text content) => Toml.parse? content

/-- The value that a setting has after a document, if it was `below` before. -/
def given? (fields : Toml.Fields) (var : Variable) (below : var.Value) : Option var.Value :=
  match fields.lookup var.key with
  | some value => var.meaning? value
  | none => some below

/-- The value that a setting has after the environment, if it was `below` before. -/
def overridden? (env : Environment) (var : Variable) (below : Option var.Value) :
    Option var.Value :=
  match (env var).value? with
  | some value => (var.reading (Text.trim value.toList)).toOption
  | none => below

/-- The value that a setting comes to have: the variable's, else the document's, else the default. -/
def layered? (fields : Toml.Fields) (env : Environment) (var : Variable) : Option var.Value :=
  overridden? env var (given? fields var (get {} var))

/-- A file is a document, and what it has for a setting is a value of that setting. -/
def Readable (file : Option FileContent) (fields : Toml.Fields) : Prop :=
  entries? file = some fields ∧ ∀ var, (given? fields var (get {} var)).isSome

/-- Nowhere in the file or in the environment is a text at which the whole program stops. -/
structure Calm (file : Option FileContent) (env : Environment) : Prop where
  file : ∀ fields, entries? file = some fields → ∀ (var : Variable) (text : String),
    fields.lookup var.key = some (.text text) → ¬ var.Stops text.toList
  environment : ∀ (var : Variable) (text : String), env var = .text text →
    ¬ var.Stops (Text.trim text.toList)

/-- A variable that is not set, or is set to a value of its setting. -/
def WellSet (env : Environment) (var : Variable) : Prop :=
  ∀ value, env var = .text value → ∃ v, var.reading (Text.trim value.toList) = .ok v

/-- The first thing that is wrong with the layers of settings. -/
inductive Fails (file : Option FileContent) (env : Environment) : SettingsFault → Prop
  | unreadable : file = some .unreadable → Fails file env .unreadable
  | malformed {content : String} : file = some (.text content) →
    (¬ ∃ fields, Readable file fields) → Fails file env .malformed
  /-- The variables before this one have good values, or none. -/
  | badVariable {fields : Toml.Fields} {before after : List Variable} {var : Variable}
    {value : String} {fault : ValueFault} : Readable file fields →
    Variable.all = before ++ var :: after →
    (∀ earlier ∈ before, (layered? fields env earlier).isSome) → env var = .text value →
    var.reading (Text.trim value.toList) = .error fault →
    Fails file env (.badVariable var value fault)
  | zeroWaitTimeout {fields : Toml.Fields} : Readable file fields →
    (∀ var, (layered? fields env var).isSome) →
    layered? fields env .waitTimeout = some Duration.zero → Fails file env .zeroWaitTimeout
  | zeroStopTimeout {fields : Toml.Fields} : Readable file fields →
    (∀ var, (layered? fields env var).isSome) →
    layered? fields env .waitTimeout ≠ some Duration.zero →
    layered? fields env .stopTimeout = some Duration.zero → Fails file env .zeroStopTimeout

/-! ## Where reading stops the whole program -/

/-- An entry that is not for a setting, or has a value of it. -/
def Acceptable (entry : String × Toml.Node) : Prop :=
  ∀ var : Variable, entry.1 = var.key → (var.meaning? entry.2).isSome = true

/-- The first entry of a document that is not acceptable is a text at which the whole program
stops. -/
inductive DocumentStops (document : String) : Prop
  | intro {fields before after : Toml.Fields} {var : Variable} {text : String} :
    Toml.parse? document = some fields → fields = before ++ (var.key, .text text) :: after →
    (∀ entry ∈ before, Acceptable entry) → var.Stops text.toList → DocumentStops document

/-- The first variable that is not well set has a text at which the whole program stops. -/
inductive EnvironmentStops (env : Environment) : Prop
  | intro {before after : List Variable} {var : Variable} {text : String} :
    Variable.all = before ++ var :: after → (∀ earlier ∈ before, WellSet env earlier) →
    env var = .text text → var.Stops (Text.trim text.toList) → EnvironmentStops env

end Settings

end DeliveryBench
