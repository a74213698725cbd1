import ErrorPages.Sink

/-! The ways to log something about a request. Each of them gives the sink one record, which is stamped
with the facts of the request. -/

namespace ErrorPages.Sink

variable (sink : Sink) (context : Context) (message : String) (cause : Option Cause)

def logEvent (severity : Severity) (extra : Fields) (journal : Journal) : Journal :=
  sink.log (.ofEvent severity context message cause extra.entries) journal

/-- Logs an error to which its caller adds nothing. -/
def logError (journal : Journal) : Journal :=
  sink.logEvent context message cause .error .empty journal

/-- Logs an error with fields of its caller, of which the last of each name stays. -/
def logErrorWith (fields : List (String × Json)) (journal : Journal) : Journal :=
  sink.logEvent context message cause .error (.ofList fields) journal

/-- Logs a failure of a class, at the severity of the class. -/
def logClassified (c : Classification) (fields : Fields) (journal : Journal) : Journal :=
  sink.log (.ofClassified c context message cause fields.entries) journal

end ErrorPages.Sink
