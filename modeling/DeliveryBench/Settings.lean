import DeliveryBench.Duration.HumanReader

/-!
The settings of a test run, their defaults and their validation.
-/

namespace DeliveryBench

/-- How the messages of a run are published. -/
inductive PublishMode where
  /-- One after the other, up to the first failure. -/
  | sequential
  /-- All of them, whatever becomes of each. -/
  | concurrent
deriving DecidableEq, Repr

namespace PublishMode

/-- The name of a mode in texts. -/
def name : PublishMode → String
  | .sequential => "sequential"
  | .concurrent => "concurrent"

/-- The mode that bears this name. -/
def ofName? (s : String) : Option PublishMode :=
  if s = "sequential" then some .sequential
  else if s = "concurrent" then some .concurrent
  else none

end PublishMode

/-- The settings of a run. -/
structure Settings where
  /-- How long to wait for the completion signals. -/
  waitTimeout : Duration := .ofSecs 10
  /-- How long one worker may take to wind down. -/
  stopTimeout : Duration := .ofSecs 5
  /-- A pause between starting the workers and publishing. -/
  startupSettle : Duration := .zero
  publishMode : PublishMode := .sequential
  failOnHandlerError : Bool := true
deriving DecidableEq

/-- Why a text is not the value of a setting. -/
inductive ValueFault where
  | duration (fault : Duration.ReadFault)
  | publishMode
  | flag
deriving DecidableEq, Repr

def ValueFault.message : ValueFault → String
  | .duration fault => fault.message
  | .publishMode => "Matching variant not found"
  | .flag => "provided string was not `true` or `false`"

/-- The settings that the environment can override. -/
inductive Variable where
  | waitTimeout | stopTimeout | startupSettle | publishMode | failOnHandlerError
deriving DecidableEq, Repr

/-- The name of a variable, without what all the names begin with. -/
def Variable.name : Variable → String
  | .waitTimeout => "WAIT_TIMEOUT"
  | .stopTimeout => "STOP_TIMEOUT"
  | .startupSettle => "STARTUP_SETTLE"
  | .publishMode => "PUBLISH_MODE"
  | .failOnHandlerError => "FAIL_ON_HANDLER_ERROR"

/-- Why no settings could be had. -/
inductive SettingsFault where
  /-- The file could not be read as text. -/
  | unreadable
  /-- The text is no document with settings. -/
  | malformed
  /-- A variable of the environment has a value that is none of its kind. -/
  | badVariable (var : Variable) (value : String) (fault : ValueFault)
  | zeroWaitTimeout
  | zeroStopTimeout
  /-- Reading stopped the whole program. -/
  | crashed (text : String)
deriving DecidableEq, Repr

/-- The text of a fault; of a file, only that it cannot be read or understood. -/
def SettingsFault.message : SettingsFault → String
  | .unreadable => "failed to read"
  | .malformed => "failed to parse config"
  | .badVariable var value fault =>
    "invalid value `" ++ value ++ "` for DISPATCH_HARNESS_" ++ var.name ++ ": " ++ fault.message
  | .zeroWaitTimeout => "wait_timeout must be greater than zero"
  | .zeroStopTimeout => "stop_timeout must be greater than zero"
  | .crashed text => text

namespace Settings

/-- Accepts settings with which a run can be made. -/
def validate (s : Settings) : Except SettingsFault Unit :=
  if s.waitTimeout.isZero then .error .zeroWaitTimeout
  else if s.stopTimeout.isZero then .error .zeroStopTimeout
  else .ok ()

end Settings

end DeliveryBench
