import ErrorPages.Responder

/-! Calls of one responder that are in flight at the same time. A call is a row of tasks, each done at
one stroke: a record is handed to the sink and, if it was not taken, counted and noted; the failure is
counted; the page is rendered; and a page that could not be rendered is counted and logged in its turn.
The calls share the sink and the counters, and go on in any order; the kept records may be taken
between any two tasks. -/

namespace ErrorPages

/-- A failure that a responder is called for. -/
structure Call where
  context : Context
  classification : Classification
  detail : Detail

namespace Call

def page (call : Call) : Page := Responder.page call.context call.classification call.detail

def record (call : Call) : Record :=
  Responder.classifiedRecord call.context call.classification call.detail

/-- The answer to a call next to which nothing else goes on. -/
def alone (call : Call) (responder : Responder) (journal : Journal) : Response × Journal :=
  responder.respond call.context call.classification call.detail journal

end Call

inductive Task where
  | offer (record : Record)
  /-- Counts and notes a record that the sink has not taken. -/
  | refuse (note : Event)
  | count (counter : Counter)
  | render

/-- What is to be done about a record once the sink has been given it. -/
def SinkOutcome.tasks : SinkOutcome → List Task
  | .accepted => []
  | .rejected e => [.refuse (Sink.rejectedEvent e)]
  | .panicked => [.refuse Sink.panickedEvent]

/-- A call with the tasks that are left of it, and the text of its page once it is rendered. -/
structure Flight where
  call : Call
  tasks : List Task
  text : String := ""

namespace Flight

def start (call : Call) : Flight where
  call := call
  tasks := [.offer call.record, .count (.responses call.classification call.classification.status),
    .render]

/-- The text of the page, and what is to be done about the way it was made. -/
def render (responder : Responder) (call : Call) : String × List Task :=
  let failed (reason : Fallback) (cause : Option Cause) (more : List (String × Json)) :=
    (call.page.builtIn, [Task.count (.fallbacks reason),
      .offer (Responder.renderFailedRecord call.context call.classification cause more)])
  match responder.renderer with
  | none => (call.page.builtIn, [.count (.fallbacks .unconfigured)])
  | some renderer =>
    let rendering := renderer call.classification.template call.page
    match rendering.outcome with
    | .finished => (rendering.text, [])
    | .failed e => failed .renderError (some e.cause) []
    | .panicked => failed .renderPanic none [("panicked", .bool true)]

/-- Does the next task, if one is left. -/
def step (responder : Responder) (flight : Flight) (journal : Journal) : Flight × Journal :=
  match flight.tasks with
  | [] => (flight, journal)
  | .offer record :: rest =>
    let (outcome, journal) := responder.sink.offer record journal
    ({ flight with tasks := outcome.tasks ++ rest }, journal)
  | .refuse note :: rest => ({ flight with tasks := rest }, journal.drop.emit note)
  | .count counter :: rest => ({ flight with tasks := rest }, journal.bump counter)
  | .render :: rest =>
    let (text, tasks) := render responder flight.call
    ({ flight with tasks := tasks ++ rest, text }, journal)

/-- The response that a call returns with when all its tasks are done. -/
def response? (flight : Flight) : Option Response :=
  if flight.tasks.isEmpty then
    some {
      status := flight.call.classification.status
      headers := Headers.empty.append .contentType .html
      body := .ofText flight.text }
  else none

end Flight

/-- The calls of a responder, what they share, and the records that have been taken from its sink. -/
structure Traffic where
  flights : List Flight
  journal : Journal := {}
  taken : List Record := []

/-- Whose turn it is: that of the call at an index, or of someone who takes the kept records. -/
inductive Turn where
  | call (index : Nat)
  | take
deriving DecidableEq

namespace Traffic

def start (calls : List Call) (journal : Journal := {}) : Traffic where
  flights := calls.map .start
  journal := journal

def step (responder : Responder) (traffic : Traffic) : Turn → Traffic
  | .call i =>
    match traffic.flights[i]? with
    | none => traffic
    | some flight =>
      let (flight, journal) := flight.step responder traffic.journal
      { traffic with flights := traffic.flights.set i flight, journal }
  | .take =>
    let (records, journal) := traffic.journal.take
    { traffic with taken := traffic.taken ++ records, journal }

def run (responder : Responder) (traffic : Traffic) (turns : List Turn) : Traffic :=
  turns.foldl (step responder) traffic

/-- The response of the call at an index, if it has returned. -/
def response? (traffic : Traffic) (i : Nat) : Option Response :=
  traffic.flights[i]?.bind Flight.response?

def Returned (traffic : Traffic) : Prop := ∀ flight ∈ traffic.flights, flight.tasks = []

end Traffic

end ErrorPages
