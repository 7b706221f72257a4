import TokenSeal.Entries
import TokenSeal.Value

/-!
# Log events

An event has a severity, the name of the logger that it went through, a text that says what
happened, and named fields. A `Journal` is the sequence of events of a run.
-/

namespace TokenSeal.Log

/-- The severity of an event. -/
inductive Severity
  | debug
  | info
  | warning
  | error
  | critical
  deriving DecidableEq, Repr

namespace Severity

/-- The severity's name in log lines. -/
def name : Severity → String
  | .debug => "debug"
  | .info => "info"
  | .warning => "warning"
  | .error => "error"
  | .critical => "critical"

/-- The severity that a logging method of this name has. -/
def ofMethod? : String → Option Severity
  | "debug" => some .debug
  | "info" => some .info
  | "warning" | "warn" => some .warning
  | "error" => some .error
  | "critical" | "fatal" => some .critical
  | _ => none

/-- Severities ascend; a threshold lets those through that reach it. -/
def rank : Severity → Nat
  | .debug => 10
  | .info => 20
  | .warning => 30
  | .error => 40
  | .critical => 50

end Severity

/-- Something that happened. -/
structure Event where
  logger : Text
  severity : Severity
  message : Text
  fields : Entries Value

/-- The name under which a logger is known: the one without a name is the root. -/
def loggerName (name : Text) : Text := if name.isEmpty then Text.ofString "root" else name

/-- The events of a run, in order. -/
abbrev Journal := List Event

end TokenSeal.Log
