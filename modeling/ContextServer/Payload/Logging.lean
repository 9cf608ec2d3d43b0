import ContextServer.Schema.Decode
import ContextServer.Schema.Encode

/-!
# Logging

The levels of severity, ordered from the least to the most severe, and the
records by which a client sets the level and a server sends log messages.
-/

namespace ContextServer

/-- A level of severity. -/
inductive LoggingLevel where
  | debug
  | info
  | notice
  | warning
  | error
  | critical
  | alert
  | emergency
deriving DecidableEq, Inhabited

namespace LoggingLevel

/-- How severe the level is, from 0. -/
def severity : LoggingLevel → Nat
  | .debug => 0
  | .info => 1
  | .notice => 2
  | .warning => 3
  | .error => 4
  | .critical => 5
  | .alert => 6
  | .emergency => 7

/-- `a` is at most as severe as `b`. -/
instance : LE LoggingLevel := ⟨fun a b => a.severity ≤ b.severity⟩

instance (a b : LoggingLevel) : Decidable (a ≤ b) :=
  inferInstanceAs (Decidable (a.severity ≤ b.severity))

/-- The levels, the least severe first. -/
def all : List LoggingLevel :=
  [.debug, .info, .notice, .warning, .error, .critical, .alert, .emergency]

/-- The name of a level. -/
def name : LoggingLevel → String
  | .debug => "debug"
  | .info => "info"
  | .notice => "notice"
  | .warning => "warning"
  | .error => "error"
  | .critical => "critical"
  | .alert => "alert"
  | .emergency => "emergency"

/-- The names of the levels. -/
def names : Choice LoggingLevel where
  variants := all.map fun l => (l.name, l)
  name := name
  lookup_name := by intro l; cases l <;> decide

/-- A level is written by its name. -/
def shape : Shape LoggingLevel := .choice names

end LoggingLevel

/-- The params of a change of the level. -/
structure SetLevelRequest where
  level : LoggingLevel
deriving DecidableEq

/-- The field of a change of the level. -/
def SetLevelRequest.shape : Shape SetLevelRequest :=
  .record "SetLevelRequest" (.required "level" LoggingLevel.shape .nil)
    { unpack := fun r => (r.level, ())
      pack := fun (level, ()) => { level } }

/-- The params of a log message. -/
structure LoggingMessageNotification where
  level : LoggingLevel
  logger : Option String := none
  data : Json
deriving DecidableEq

/-- The fields of a log message. -/
def LoggingMessageNotification.shape : Shape LoggingMessageNotification :=
  .record "LoggingMessageNotification"
    (.required "level" LoggingLevel.shape (.optional "logger" false .string
      (.required "data" .free .nil)))
    { unpack := fun n => (n.level, n.logger, n.data, ())
      pack := fun (level, logger, data, ()) => { level, logger, data } }

end ContextServer
