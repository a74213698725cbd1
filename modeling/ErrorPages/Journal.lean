import ErrorPages.Counter
import ErrorPages.Record

/-! What is observed of a run: the records a sink has kept, the log events, the counters. -/

namespace ErrorPages

/-- The part of the program that an event comes from. Events that carry a log record go under a target
of their own. -/
inductive Origin where
  | program
  | metrics
  | templates
  | startup
  | server
  | logger
  | record
deriving DecidableEq

/-- The text that filters know a part by. -/
def Origin.target : Origin → String
  | .program => "strataforge_errors"
  | .metrics => "strataforge_errors::observability::metrics"
  | .templates => "strataforge_errors::templates::store"
  | .startup => "strataforge_errors::lifecycle::startup"
  | .server => "strataforge_errors::http::server"
  | .logger => "strataforge_errors::observability::error_log"
  | .record => "strataforge::errors"

structure Event where
  origin : Origin := .program
  severity : Severity
  message : String
  fields : List (String × Json) := []

/-- The names under which an event gives values; its message is one of them. -/
def Event.fieldNames (event : Event) : List String := "message" :: event.fields.map (·.1)

/-- The event of a record: its fields travel as one text. -/
def Record.event (record : Record) : Event where
  origin := .record
  severity := record.severity
  message := record.message
  fields := [("fields", .str record.fields.toJson.text)]

structure Journal where
  /-- The records that the sink has been given, whether it took them or not. -/
  offered : List Record := []
  kept : List Record := []
  events : List Event := []
  /-- Events that a sink sent to a subscriber of its own. -/
  boundEvents : List Event := []
  counters : Counters := []
  /-- How many records the sink has not taken. -/
  dropped : Nat := 0

namespace Journal

def emit (journal : Journal) (event : Event) : Journal :=
  { journal with events := journal.events ++ [event] }

def emitBound (journal : Journal) (event : Event) : Journal :=
  { journal with boundEvents := journal.boundEvents ++ [event] }

def keep (journal : Journal) (record : Record) : Journal :=
  { journal with kept := journal.kept ++ [record] }

/-- Hands over the kept records. -/
def take (journal : Journal) : List Record × Journal :=
  (journal.kept, { journal with kept := [] })

def bump (journal : Journal) (counter : Counter) : Journal :=
  { journal with counters := journal.counters.bump counter }

def drop (journal : Journal) : Journal :=
  { journal with dropped := journal.dropped + 1 }.bump .droppedRecords

/-- The diagnostic text of a logger. -/
def loggerText (journal : Journal) : String :=
  "ErrorLogger \x7b dropped: " ++ Text.decimal journal.dropped ++ ", .. \x7d"

end Journal

end ErrorPages
