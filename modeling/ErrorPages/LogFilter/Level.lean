import ErrorPages.Severity
import ErrorPages.Text.Digits

/-! Levels of log filters, and the reading of a level by its name or number. -/

namespace ErrorPages

/-- The most detailed events to let through: none at `off`, all at `trace`. -/
inductive LogLevel where
  | off
  | error
  | warn
  | info
  | debug
  | trace
deriving DecidableEq, Ord

namespace LogLevel

def all : List LogLevel := [.off, .error, .warn, .info, .debug, .trace]

def name : LogLevel → String
  | .off => "off"
  | .error => "error"
  | .warn => "warn"
  | .info => "info"
  | .debug => "debug"
  | .trace => "trace"

/-- Reads a level in any case, or its number. -/
def ofText? (text : String) : Option LogLevel :=
  (all.find? (·.name = text.map Char.toLower)).or
    ((Text.plusValue? text.toList).bind fun n => all[n]?)

def ofSeverity : Severity → LogLevel
  | .debug => .debug
  | .info => .info
  | .warn => .warn
  | .error => .error

end LogLevel

end ErrorPages
