import ErrorPages.Journal

/-! Sinks, which take log records. A sink may keep a record, send it on as an event, refuse it or
panic; what it does with a record depends on the record and on those it has been given before.
Logging absorbs whatever the sink does: a record that is not taken is counted and noted, and nothing
else happens. -/

namespace ErrorPages

inductive SinkError where
  | unavailable (reason : String)
  | encode (reason : String)
deriving DecidableEq

namespace SinkError

def message : SinkError → String
  | .unavailable reason => "log sink unavailable: " ++ reason
  | .encode reason => "failed to encode log record: " ++ reason

def cause (e : SinkError) : Cause :=
  match e with
  | .unavailable _ => .root e.message
  | .encode reason => .wrapping e.message (.root reason)

end SinkError

inductive SinkOutcome where
  | accepted
  | rejected (error : SinkError)
  | panicked
deriving DecidableEq

/-- Where a sink sends the event of a record. -/
inductive Outlet where
  | shared
  | bound
deriving DecidableEq

structure Reaction where
  keeps : Bool := false
  sends : Option Outlet := none
  outcome : SinkOutcome := .accepted
deriving DecidableEq

namespace Reaction

def keep : Reaction := { keeps := true }
def reject (reason : String) : Reaction := { outcome := .rejected (.unavailable reason) }
def panic : Reaction := { outcome := .panicked }
def keepThenPanic : Reaction := { keeps := true, outcome := .panicked }

end Reaction

structure Sink where
  /-- What the sink does with a record after the given earlier ones. -/
  react : List Record → Record → Reaction

namespace Sink

def memory : Sink := ⟨fun _ _ => .keep⟩

def discard : Sink := ⟨fun _ _ => {}⟩

/-- Sends every record on as an event. -/
def forward (outlet : Outlet) : Sink := ⟨fun _ _ => { sends := some outlet }⟩

/-- The diagnostic text of a forwarding sink. -/
def forwardText (bound : Bool) : String :=
  "TracingSink \x7b bound_dispatch: " ++ toString bound ++ " \x7d"

/-- Goes through the script again and again. -/
def script (reactions : List Reaction) : Sink :=
  ⟨fun earlier _ => reactions.getD (earlier.length % reactions.length) .keep⟩

/-- Gives the sink a record. -/
def offer (sink : Sink) (record : Record) (journal : Journal) : SinkOutcome × Journal :=
  let reaction := sink.react journal.offered record
  let journal := { journal with offered := journal.offered ++ [record] }
  let journal := if reaction.keeps then journal.keep record else journal
  let journal := match reaction.sends with
    | none => journal
    | some .shared => journal.emit record.event
    | some .bound => journal.emitBound record.event
  (reaction.outcome, journal)

def rejectedEvent (e : SinkError) : Event where
  origin := .logger
  severity := .debug
  message := "Error log sink rejected record"
  fields := [("error", .str e.message)]

def panickedEvent : Event where
  origin := .logger
  severity := .debug
  message := "Error log sink panicked"

/-- Logs a record. -/
def log (sink : Sink) (record : Record) (journal : Journal) : Journal :=
  match sink.offer record journal with
  | (.accepted, journal) => journal
  | (.rejected e, journal) => journal.drop.emit (rejectedEvent e)
  | (.panicked, journal) => journal.drop.emit panickedEvent

end Sink

end ErrorPages
