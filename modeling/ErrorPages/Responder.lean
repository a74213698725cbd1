import ErrorPages.Logging

/-! Responses to failures. The response of a class has its status, one header and a page: what the
renderer wrote when it finished, and the built-in page otherwise. Each failure is logged once, and
once more when rendering failed; what is logged never shows on the page. -/

namespace ErrorPages

/-- What comes with a failure besides its class. -/
structure Detail where
  publicMessage : Option String := none
  cause : Option Cause := none
  fields : Fields := .empty

def Failure.detail (failure : Failure) : Detail where
  publicMessage := failure.publicMessage
  cause := failure.cause

structure Responder where
  sink : Sink
  renderer : Option Renderer := none

namespace Responder

def page (context : Context) (c : Classification) (detail : Detail) : Page where
  title := c.row.title
  status := c.status.code
  message := some (detail.publicMessage.getD c.row.message)
  requestId := context.requestId

/-- The record of a failure. -/
def classifiedRecord (context : Context) (c : Classification) (detail : Detail) : Record :=
  .ofClassified c context c.row.logMessage detail.cause detail.fields.entries

/-- The record of a page that could not be rendered. -/
def renderFailedRecord (context : Context) (c : Classification) (cause : Option Cause)
    (more : List (String × Json)) : Record :=
  .ofEvent .error context "error page render failed" cause <|
    [("event", .str "error_page.render_failed"), ("template", .str c.template)] ++ more

/-- The text of the page, and the journal after it was built. -/
def body (responder : Responder) (context : Context) (c : Classification) (page : Page)
    (journal : Journal) : String × Journal :=
  match responder.renderer with
  | none => (page.builtIn, journal.bump (.fallbacks .unconfigured))
  | some renderer =>
    let rendering := renderer c.template page
    match rendering.outcome with
    | .finished => (rendering.text, journal)
    | .failed e =>
      let record := renderFailedRecord context c (some e.cause) []
      (page.builtIn, responder.sink.log record (journal.bump (.fallbacks .renderError)))
    | .panicked =>
      let record := renderFailedRecord context c none [("panicked", .bool true)]
      (page.builtIn, responder.sink.log record (journal.bump (.fallbacks .renderPanic)))

def respond (responder : Responder) (context : Context) (c : Classification) (detail : Detail)
    (journal : Journal) : Response × Journal :=
  let journal :=
    responder.sink.logClassified context c.row.logMessage detail.cause c detail.fields journal
  let journal := journal.bump (.responses c c.status)
  let (text, journal) := responder.body context c (page context c detail) journal
  ({ status := c.status, headers := Headers.empty.append .contentType .html, body := .ofText text },
    journal)

/-- Fields that describe the replaced body, and so are not carried over to the page. -/
def bodyFields : List HeaderName := [.contentType, .contentLength]

/-- Moves the headers of a replaced response to its page. -/
def carry (replaced page : Response) : Response :=
  { page with headers := page.headers.appendAll (replaced.headers.without bodyFields) }

/-- A bare response has no content type and is known to have no content. -/
def isBare (response : Response) : Bool :=
  !response.headers.contains .contentType && response.body.length? == some 0

/-- Replaces the answer to a request by a page when it carries a failure, or is bare and has the
status of a class. -/
def dress (responder : Responder) (request : Request) (answer : Response) (journal : Journal) :
    Response × Journal :=
  let context := Context.ofRequest request
  let replace (c : Classification) (detail : Detail) :=
    let (page, journal) := responder.respond context c detail journal
    (carry answer page, journal)
  match answer.failure with
  | some failure => replace failure.classification failure.detail
  | none =>
    match if isBare answer then Classification.ofStatus? answer.status else none with
    | some c => replace c {}
    | none => (answer, journal)

/-- The diagnostic text of a responder. -/
def text (responder : Responder) (journal : Journal) : String :=
  "ErrorResponder \x7b logger: " ++ journal.loggerText ++ ", has_renderer: " ++
  toString responder.renderer.isSome ++ " \x7d"

end Responder

end ErrorPages
