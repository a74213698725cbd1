/-! Severities of log entries, from the least to the most severe. -/

namespace ErrorPages

inductive Severity where
  | debug
  | info
  | warn
  | error
deriving DecidableEq, Ord

namespace Severity

def all : List Severity := [.debug, .info, .warn, .error]

def name : Severity → String
  | .debug => "debug"
  | .info => "info"
  | .warn => "warn"
  | .error => "error"

def max (a b : Severity) : Severity := if compare a b = .gt then a else b

/-- The severity of this name in lower case. -/
def ofName? (s : String) : Option Severity := all.find? (·.name = s)

end Severity

end ErrorPages
