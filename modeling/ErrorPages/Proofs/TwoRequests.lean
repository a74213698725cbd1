import ErrorPages.Proofs.Identity
import ErrorPages.Proofs.Likeness

/-! Two requests with one id. HEAD is answered as GET is, but for the body, and logged as GET is, but for
the method. Two queries are answered alike; and what a query says is not even logged, unless it names
the cause of an internal error, which then stands in the field for the cause and nowhere else. -/

namespace ErrorPages

/-- The request with another query, or with none. -/
def Request.withQuery (request : Request) (query : Option String) : Request :=
  { request with uri := { request.uri with query } }

namespace Site

/-- The id of a request: the first one that it came with, or else the fresh one. -/
def idOf (fresh : String) (request : Request) : HeaderValue :=
  (request.headers.get? .requestId).getD (.ofText fresh)

theorem ofRequest_identify (fresh : String) (request : Request) :
    Context.ofRequest (identify fresh request) =
      ⟨request.method, request.uri.path, request.peer, (idOf fresh request).text?⟩ := by
  rw [Context.ofRequest, get?_identify]
  rfl

theorem echoId_congr {fresh fresh' : String} {request request' : Request}
    (hid : idOf fresh request = idOf fresh' request') (answer : Response) :
    echoId (identify fresh request) answer = echoId (identify fresh' request') answer := by
  unfold echoId
  rw [get?_identify, get?_identify]
  exact congrArg (fun id => { answer with headers := answer.headers.supply .requestId id }) hid

/-- The answer to a request is dressed, given the id, and sent. -/
theorem serve_eq (responder : Responder) (fresh : String) (request : Request) (journal : Journal) :
    serve responder fresh request journal =
      let dressed := responder.dress (identify fresh request) (answer request) journal
      (send request.method (echoId (identify fresh request) dressed.1), dressed.2) := rfl

/-- A request has its response by its method, by what is kept of it, and by the answer to it. -/
theorem serve_congr (responder : Responder) (journal : Journal) {fresh fresh' : String}
    {request request' : Request} (hid : idOf fresh request = idOf fresh' request')
    (hmethod : request.method = request'.method)
    (hcontext : Context.ofRequest (identify fresh request) =
      Context.ofRequest (identify fresh' request'))
    (hanswer : answer request = answer request') :
    serve responder fresh request journal = serve responder fresh' request' journal := by
  have hdress (answer : Response) : responder.dress (identify fresh request) answer journal =
      responder.dress (identify fresh' request') answer journal := by
    simp only [Responder.dress, hcontext]
  rw [serve_eq, serve_eq, hanswer, hdress, hmethod]
  simp only [echoId_congr hid]

section Head

theorem send_head (answer : Response) :
    send .head answer = { send .get answer with body := .empty } := by
  have hget : Method.get ≠ .head := by decide
  rw [send, send, if_pos rfl, if_neg hget]

theorem answer_head {got headed : Request} (hget : got.method = .get)
    (hhead : headed.method = .head) (huri : headed.uri = got.uri) : answer headed = answer got := by
  have hgot : got.method ∈ allowed := by simp [allowed, hget]
  have hheaded : headed.method ∈ allowed := by simp [allowed, hhead]
  unfold answer
  rw [huri]
  simp only [if_pos hgot, if_pos hheaded]

/-- The length of the body is known, and no header says it yet. -/
structure Unmeasured (answer : Response) : Prop where
  known : answer.body.length? = some answer.body.bytes.size
  unsaid : answer.headers.getAll .contentLength = []

theorem unmeasured_answer (request : Request) : Unmeasured (answer request) := by
  have hanswers := answers_outcome request
  cases houtcome : outcome request.method request.uri.path (causes request) <;>
    rw [houtcome] at hanswers
  case healthy | refused =>
    rw [hanswers]
    exact ⟨rfl, rfl⟩
  case malformed =>
    obtain ⟨text, hanswer⟩ := hanswers
    rw [hanswer]
    exact ⟨rfl, rfl⟩
  case failed c =>
    obtain ⟨cause, hanswer⟩ := hanswers
    rw [hanswer]
    exact ⟨rfl, rfl⟩

theorem Unmeasured.dress {answer : Response} (h : Unmeasured answer) (responder : Responder)
    (request : Request) (journal : Journal) :
    Unmeasured (responder.dress request answer journal).1 := by
  by_cases hsettled : Responder.IsSettled answer
  · rw [responder.dress_of_isSettled request journal hsettled]
    exact h
  · refine ⟨?_, responder.getAll_dress request journal hsettled .contentLength⟩
    obtain ⟨c, detail, -, hdress⟩ := Responder.exists_dress_eq hsettled
    rw [hdress]
    rfl

/-- HEAD and GET of one target, with one id. The response to HEAD is that to GET without its body, whose
length it says; the records differ in the method alone, and the same counters move. -/
theorem serve_head (responder : Responder) (journal : Journal) (got headed : Request)
    (fresh fresh' : String) (hget : got.method = .get) (hhead : headed.method = .head)
    (huri : headed.uri = got.uri) (hpeer : headed.peer = got.peer)
    (hid : idOf fresh' headed = idOf fresh got) :
    let whole := serve responder fresh got journal
    let bodiless := serve responder fresh' headed journal
    bodiless.1 = { whole.1 with body := .empty } ∧
    whole.1.headers.getAll .contentLength = [.ofText (Text.decimal whole.1.body.bytes.size)] ∧
    ∃ logged logged',
      Journal.NotedAlike "method" responder.sink journal whole.2 bodiless.2 logged logged' ∧
      (∀ record ∈ logged, record.field? "method" = some (.str "GET")) ∧
      ∀ record ∈ logged', record.field? "method" = some (.str "HEAD") := by
  intro whole bodiless
  have hcontext : (Context.ofRequest (identify fresh got)).SameBut "method"
      (Context.ofRequest (identify fresh' headed)) := by
    rw [ofRequest_identify, ofRequest_identify, hid, huri, hpeer]
    exact Context.sameBut_method _ headed.method
  obtain ⟨hresponse, logged, logged', hnoted, hfacts⟩ :=
    responder.dress_alike (answer got) journal hcontext
  have hunmeasured := (unmeasured_answer got).dress responder (identify fresh got) journal
  -- one answer is sent to both, so the responses can differ only in what is done to send it
  have hwhole : whole = _ := serve_eq responder fresh got journal
  have hbodiless : bodiless = _ := serve_eq responder fresh' headed journal
  rw [hget] at hwhole
  rw [hhead, answer_head hget hhead huri] at hbodiless
  simp only [← hresponse, echoId_congr hid] at hbodiless
  rw [hwhole, hbodiless]
  have hmethod (request : Request) : (Context.ofRequest request).fact? "method" =
      some (.str request.method.name) := rfl
  obtain ⟨hgot, hheaded⟩ := hfacts "method" (by decide)
  refine ⟨send_head _, ?_, logged, logged', hnoted, fun record hrecord => ?_, fun record hrecord => ?_⟩
  · rw [contentLength_send .get _ _ hunmeasured.known hunmeasured.unsaid, body_send,
      if_neg (by decide)]
  · rw [hgot record hrecord, hmethod]
    exact congrArg (fun method : Method => some (Json.str method.name)) hget
  · rw [hheaded record hrecord, hmethod]
    exact congrArg (fun method : Method => some (Json.str method.name)) hhead

/-- An internal error whose query names the cause. -/
theorem serve_head_error :
    let got : Request := ⟨.get, ⟨"/error", some "cause=boom"⟩, .empty, none⟩
    let headed : Request := { got with method := .head }
    let whole := serve ⟨.memory, none⟩ "trace" got {}
    let bodiless := serve ⟨.memory, none⟩ "trace" headed {}
    got.method = .get ∧ headed.method = .head ∧ bodiless.1 = { whole.1 with body := .empty } ∧
      whole.1.headers.getAll .contentLength =
        [.ofText (Text.decimal whole.1.body.bytes.size)] ∧
      ∀ counter, whole.2.counters.count counter = bodiless.2.counters.count counter := by
  intro got headed whole bodiless
  obtain ⟨hbodiless, hlength, logged, logged', hnoted, -, -⟩ :=
    serve_head ⟨.memory, none⟩ {} got headed "trace" "trace" rfl rfl rfl rfl rfl
  exact ⟨rfl, rfl, hbodiless, hlength, fun counter =>
    hnoted.count counter (.inr (Sink.byCount_memory.disregards "method"))⟩

end Head

section Query

theorem Route.answer_congr {route : Route} {query query' : String}
    (h : route = .failing .internalError → Form.values query "cause" = Form.values query' "cause") :
    route.answer query = route.answer query' := by
  cases route with
  | health => rfl
  | failing c =>
    cases c with
    | internalError => simp only [answer, failInternally, h rfl]
    | _ => rfl

/-- Only one path leads to the handler that reads the query. -/
theorem eq_error_of_lookup {path : String}
    (h : routes.lookup path = some (.failing .internalError)) : path = "/error" := by
  obtain ⟨before, after, hroutes, -⟩ := List.lookup_eq_some_iff.1 h
  have hmem : (path, Route.failing .internalError) ∈ routes := by
    rw [hroutes]
    exact List.mem_append_right _ List.mem_cons_self
  simpa [routes] using hmem

theorem answer_withQuery (request : Request) (query : Option String) :
    answer (request.withQuery query) =
      match routes.lookup request.uri.path with
      | none => .ofFailure .notFound
      | some route =>
        if request.method ∈ allowed then route.answer (query.getD "") else methodNotAllowed := rfl

/-- The answer does not depend on the query, but for the causes that it names, and on one path. -/
theorem answer_withQuery_congr (request : Request) {query query' : Option String}
    (h : request.uri.path ≠ "/error" ∨ request.method ∉ allowed ∨
      Form.values (query.getD "") "cause" = Form.values (query'.getD "") "cause") :
    answer (request.withQuery query) = answer (request.withQuery query') := by
  rw [answer_withQuery, answer_withQuery]
  cases hroute : routes.lookup request.uri.path with
  | none => rfl
  | some route =>
    by_cases hallowed : request.method ∈ allowed
    · simp only [if_pos hallowed]
      refine Route.answer_congr fun hreads => ?_
      subst hreads
      have hpath := eq_error_of_lookup hroute
      exact (h.resolve_left (not_not_intro hpath)).resolve_left (not_not_intro hallowed)
    · simp only [if_neg hallowed]

/-- A query that names one cause at most is accepted. -/
theorem exists_answer_error (request : Request) (hpath : request.uri.path = "/error")
    (hallowed : request.method ∈ allowed) (hcauses : causes request ≤ 1) :
    ∃ cause, answer request = .ofFailure { classification := .internalError, cause } := by
  have hanswers := answers_outcome request
  have hmethod : request.method = .get ∨ request.method = .head := by
    simpa [allowed] using hallowed
  have houtcome : outcome request.method request.uri.path (causes request) =
      .failed .internalError := by
    rw [outcome, hpath]
    simp only [pathOutcome?, if_pos hcauses, if_pos hmethod]
  rwa [houtcome] at hanswers

/-- Two queries of one request. Where no handler reads them, or they name the same causes, it is as if
they were the same. Where an internal error is asked for and both name one cause at most, the responses
are the same, and the records differ in the field for the cause alone. -/
theorem serve_withQuery (responder : Responder) (journal : Journal) (request : Request)
    (query query' : Option String) (fresh fresh' : String)
    (hid : idOf fresh request = idOf fresh' request) :
    let asked := request.withQuery query
    let asked' := request.withQuery query'
    let served := serve responder fresh asked journal
    let served' := serve responder fresh' asked' journal
    (request.uri.path ≠ "/error" ∨ request.method ∉ allowed ∨
        Form.values (query.getD "") "cause" = Form.values (query'.getD "") "cause" →
      served = served') ∧
    (request.uri.path = "/error" → request.method ∈ allowed →
      causes asked ≤ 1 → causes asked' ≤ 1 →
      served.1 = served'.1 ∧ ∃ logged logged',
        Journal.NotedAlike "cause" responder.sink journal served.2 served'.2 logged logged') := by
  intro asked asked' served served'
  have hasked : idOf fresh asked = idOf fresh' asked' := hid
  have hcontext : Context.ofRequest (identify fresh asked) =
      Context.ofRequest (identify fresh' asked') := by
    rw [ofRequest_identify, ofRequest_identify, hasked]
    rfl
  constructor
  · intro h
    exact serve_congr responder journal hasked rfl hcontext (answer_withQuery_congr request h)
  · intro hpath hallowed hcauses hcauses'
    obtain ⟨cause, hanswer⟩ := exists_answer_error asked hpath hallowed hcauses
    obtain ⟨cause', hanswer'⟩ := exists_answer_error asked' hpath hallowed hcauses'
    have hserved : served = _ := serve_of_failure responder asked journal hanswer
    have hserved' : served' = _ := serve_of_failure responder asked' journal hanswer'
    have hdetail : Detail.SameBut "cause" { cause } { cause := cause' } := ⟨rfl, rfl, .inl rfl⟩
    have hnoted := responder.notedAlike_respond .internalError
      (.refl "cause" (.ofRequest (identify fresh asked))) hdetail journal
    rw [hserved, hserved']
    simp only [← echoId_congr hasked, ← hcontext]
    refine ⟨?_, _, _, hnoted⟩
    rw [Responder.respond_fst, Responder.respond_fst]
    rfl

/-- A token in the query of a page that is not there, and two causes of an internal error. -/
theorem serve_withQuery_token :
    let missing : Request := ⟨.get, ⟨"/missing", none⟩, .empty, none⟩
    let failing : Request := ⟨.get, ⟨"/error", none⟩, .empty, none⟩
    let serve (request : Request) := serve ⟨.memory, none⟩ "trace" request {}
    missing.uri.path ≠ "/error" ∧ causes (failing.withQuery (some "cause=boom&token=1")) ≤ 1 ∧
      serve (missing.withQuery (some "token=1")) = serve missing ∧
      (serve (failing.withQuery (some "cause=boom&token=1"))).1 = (serve failing).1 := by
  intro missing failing serve
  have hpath : missing.uri.path ≠ "/error" := by decide
  have hcauses : causes (failing.withQuery (some "cause=boom&token=1")) ≤ 1 := by decide +kernel
  have hnone : causes (failing.withQuery none) ≤ 1 := by decide +kernel
  obtain ⟨hmissing, -⟩ :=
    serve_withQuery ⟨.memory, none⟩ {} missing (some "token=1") none "trace" "trace" rfl
  obtain ⟨-, hfailing⟩ := serve_withQuery ⟨.memory, none⟩ {} failing (some "cause=boom&token=1") none
    "trace" "trace" rfl
  exact ⟨hpath, hcauses, hmissing (.inl hpath), (hfailing rfl (by decide) hcauses hnone).1⟩

end Query

end Site

end ErrorPages
