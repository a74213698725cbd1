import ErrorPages.Http.Form
import ErrorPages.Responder

/-! A site of five paths, four of which only fail, and the way of a request through it: the request
gets an id, is answered, the answer is dressed, and the id is put on it. An answer of known length
says so in a header, and an answer to HEAD is then sent without its body. -/

namespace ErrorPages.Site

inductive Route where
  | health
  | failing (classification : Classification)
deriving DecidableEq

def routes : List (String × Route) :=
  [("/health", .health), ("/forbidden", .failing .forbidden),
    ("/unauthorized", .failing .unauthorized), ("/notfound", .failing .notFound),
    ("/error", .failing .internalError)]

def allowed : List Method := [.get, .head]

def methodNotAllowed : Response where
  status := .methodNotAllowed
  headers := Headers.empty.append .allow (.ofText "GET,HEAD")

/-- Fails with the cause that the query names. -/
def failInternally (query : String) : Response :=
  match Form.values query "cause" with
  | [] => .ofFailure (.internalText "unhandled failure")
  | [cause] => .ofFailure (.internalText cause)
  | _ => .ofText .badRequest "Failed to deserialize query string: duplicate field `cause`"

def Route.answer (query : String) : Route → Response
  | .health => .ofText .ok "ok"
  | .failing .internalError => failInternally query
  | .failing c => .ofFailure (.ofClassification c)

def answer (request : Request) : Response :=
  match routes.lookup request.uri.path with
  | none => .ofFailure .notFound
  | some route =>
    if request.method ∈ allowed then route.answer (request.uri.query.getD "")
    else methodNotAllowed

/-- Gives a request without an id a fresh one. -/
def identify (fresh : String) (request : Request) : Request :=
  { request with headers := request.headers.supply .requestId (.ofText fresh) }

/-- Puts the id of a request on its answer. -/
def echoId (request : Request) (answer : Response) : Response :=
  match request.headers.get? .requestId with
  | none => answer
  | some id => { answer with headers := answer.headers.supply .requestId id }

def measure (answer : Response) : Response :=
  match answer.body.length? with
  | none => answer
  | some length =>
    { answer with
      headers := answer.headers.supply .contentLength (.ofText (Text.decimal length)) }

def send (method : Method) (answer : Response) : Response :=
  if method = .head then { measure answer with body := .empty } else measure answer

def serve (responder : Responder) (fresh : String) (request : Request) (journal : Journal) :
    Response × Journal :=
  let request := identify fresh request
  let (response, journal) := responder.dress request (answer request) journal
  (send request.method (echoId request response), journal)

end ErrorPages.Site
