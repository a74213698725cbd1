import ErrorPages.Proofs.Delivery
import ErrorPages.Proofs.Replacement
import ErrorPages.Site

/-! What a site answers. The outcome of a request is settled by its method and its path, and for one
path by how often the query names a cause. A failure shows in the status, on the page, in one
classified record and in one counter, and all of them name the same class; every other request leaves
no trace. An answer to HEAD says how long its body would be, and has none. -/

namespace ErrorPages

namespace Headers

theorem getAll_append (headers : Headers) (name other : HeaderName) (value : HeaderValue) :
    (headers.append name value).getAll other =
      headers.getAll other ++ if other = name then [value] else [] := by
  by_cases h : other = name
  · simp [append, getAll, h]
  · simp [append, getAll, h, Ne.symm h]

theorem getAll_supply (headers : Headers) (name other : HeaderName) (value : HeaderValue) :
    (headers.supply name value).getAll other =
      if other = name ∧ headers.getAll name = [] then [value] else headers.getAll other := by
  unfold supply
  cases h : headers.contains name with
  | true =>
    have hsome : headers.getAll name ≠ [] := fun hnone => by
      simp [contains_eq_false_iff.2 hnone] at h
    simp [hsome]
  | false =>
    have hnone : headers.getAll name = [] := contains_eq_false_iff.1 h
    by_cases ho : other = name
    · simp [getAll_append, ho, hnone]
    · simp [getAll_append, ho]

end Headers

namespace Site

/-- How a request fares. -/
inductive Outcome where
  | healthy
  | refused
  | malformed
  | failed (c : Classification)

def Outcome.status : Outcome → Status
  | .healthy => .ok
  | .refused => .methodNotAllowed
  | .malformed => .badRequest
  | .failed c => c.status

/-- What GET and HEAD come to on a path of the site, when the query names this many causes. -/
def pathOutcome? (causes : Nat) : String → Option Outcome
  | "/health" => some .healthy
  | "/forbidden" => some (.failed .forbidden)
  | "/unauthorized" => some (.failed .unauthorized)
  | "/notfound" => some (.failed .notFound)
  | "/error" => some (if causes ≤ 1 then .failed .internalError else .malformed)
  | _ => none

def outcome (method : Method) (path : String) (causes : Nat) : Outcome :=
  match pathOutcome? causes path with
  | none => .failed .notFound
  | some outcome => if method = .get ∨ method = .head then outcome else .refused

/-- How often the query of a request names a cause. -/
def causes (request : Request) : Nat :=
  (Form.values (request.uri.query.getD "") "cause").length

/-- What the handlers make of an outcome, before the pages are put in. -/
def Outcome.Answers (answer : Response) : Outcome → Prop
  | .healthy => answer = .ofText .ok "ok"
  | .refused => answer = methodNotAllowed
  | .malformed => ∃ text, answer = .ofText .badRequest text
  | .failed c => ∃ cause, answer = .ofFailure { classification := c, cause }

theorem answers_failInternally (query : String) :
    (if (Form.values query "cause").length ≤ 1 then Outcome.failed .internalError
      else .malformed).Answers (failInternally query) := by
  unfold failInternally
  match Form.values query "cause" with
  | [] => exact ⟨_, rfl⟩
  | [cause] => exact ⟨_, rfl⟩
  | _ :: _ :: _ => exact ⟨_, rfl⟩

theorem lookup_routes_eq_none {causes : Nat} {path : String} (h : pathOutcome? causes path = none) :
    routes.lookup path = none := by
  unfold pathOutcome? at h
  split at h
  case h_6 hhealth hforbidden hunauthorized hnotfound herror =>
    simp only [routes, List.lookup_cons, List.lookup_nil, beq_eq_false_iff_ne.2 hhealth,
      beq_eq_false_iff_ne.2 hforbidden, beq_eq_false_iff_ne.2 hunauthorized,
      beq_eq_false_iff_ne.2 hnotfound, beq_eq_false_iff_ne.2 herror]
  all_goals exact absurd h (Option.some_ne_none _)

/-- A path of the site has a route, which answers as its outcome says. -/
theorem exists_route_answers {query path : String} {outcome : Outcome}
    (h : pathOutcome? (Form.values query "cause").length path = some outcome) :
    ∃ route, routes.lookup path = some route ∧ outcome.Answers (route.answer query) := by
  unfold pathOutcome? at h
  split at h
  case h_6 => exact absurd h.symm (Option.some_ne_none _)
  all_goals obtain rfl := Option.some.inj h
  · exact ⟨.health, rfl, rfl⟩
  · exact ⟨.failing .forbidden, rfl, _, rfl⟩
  · exact ⟨.failing .unauthorized, rfl, _, rfl⟩
  · exact ⟨.failing .notFound, rfl, _, rfl⟩
  · exact ⟨.failing .internalError, rfl, answers_failInternally query⟩

theorem answers_outcome (request : Request) :
    (outcome request.method request.uri.path (causes request)).Answers (answer request) := by
  unfold outcome answer causes
  cases hpath : pathOutcome? (Form.values (request.uri.query.getD "") "cause").length
      request.uri.path with
  | none =>
    rw [lookup_routes_eq_none hpath]
    exact ⟨none, rfl⟩
  | some outcome =>
    obtain ⟨route, hroute, hanswers⟩ := exists_route_answers hpath
    rw [hroute]
    by_cases hmethod : request.method = .get ∨ request.method = .head
    · have hallowed : request.method ∈ allowed := by simpa [allowed] using hmethod
      simp only [if_pos hmethod, if_pos hallowed]
      exact hanswers
    · have hallowed : request.method ∉ allowed := by simpa [allowed] using hmethod
      simp only [if_neg hmethod, if_neg hallowed]
      rfl

section Sending

variable (method : Method) (request : Request) (answer : Response)

theorem status_send : (send method (echoId request answer)).status = answer.status := by
  unfold send measure echoId
  split <;> split <;> split <;> rfl

theorem body_send : (send method (echoId request answer)).body =
    if method = .head then .empty else answer.body := by
  unfold send measure echoId
  split <;> split <;> split <;> rfl

theorem getAll_echoId {name : HeaderName} (h : name ≠ .requestId) :
    (echoId request answer).headers.getAll name = answer.headers.getAll name := by
  unfold echoId
  split
  · rfl
  · exact (Headers.getAll_supply _ _ _ _).trans (if_neg fun hname => h hname.1)

theorem getAll_send {name : HeaderName} (h : name ≠ .contentLength) :
    (send method answer).headers.getAll name = answer.headers.getAll name := by
  have hmeasure : (measure answer).headers.getAll name = answer.headers.getAll name := by
    unfold measure
    split
    · rfl
    · exact (Headers.getAll_supply _ _ _ _).trans (if_neg fun hname => h hname.1)
  unfold send
  split <;> exact hmeasure

/-- The length of a body is announced whether the body is sent or not. -/
theorem contentLength_send {length : Nat} (hbody : answer.body.length? = some length)
    (hunset : answer.headers.getAll .contentLength = []) :
    (send method (echoId request answer)).headers.getAll .contentLength =
      [.ofText (Text.decimal length)] := by
  have hecho : (echoId request answer).headers.getAll .contentLength = [] := by
    rw [getAll_echoId request answer (by decide), hunset]
  have hlength : (echoId request answer).body.length? = some length := by
    rw [← hbody]
    unfold echoId
    split <;> rfl
  have hmeasure : (measure (echoId request answer)).headers.getAll .contentLength =
      [.ofText (Text.decimal length)] := by
    unfold measure
    rw [hlength]
    exact (Headers.getAll_supply _ _ _ _).trans (if_pos ⟨rfl, hecho⟩)
  unfold send
  split <;> exact hmeasure

end Sending

/-- The response brings a text, or, to HEAD, the length of the text and nothing else. -/
structure Brings (method : Method) (text : String) (response : Response) : Prop where
  body : response.body = if method = .head then .empty else .ofText text
  length : response.headers.getAll .contentLength = [.ofText (Text.decimal text.toUTF8.size)]

theorem brings_send (method : Method) (request : Request) {answer : Response} {text : String}
    (hbody : answer.body = .ofText text) (hunset : answer.headers.getAll .contentLength = []) :
    Brings method text (send method (echoId request answer)) where
  body := by rw [body_send, hbody]
  length := contentLength_send method request answer (by rw [hbody]; rfl) hunset

variable (responder : Responder) (request : Request) (journal : Journal)

/-- An answer that is no failure and has the status of no class is sent as it is. -/
theorem dress_of_unclassified {answer : Response} (h : answer.failure = none)
    (hstatus : ∀ c : Classification, c.status ≠ answer.status) :
    responder.dress request answer journal = (answer, journal) :=
  responder.dress_of_other request answer journal h fun ⟨_, c, hc⟩ => hstatus c hc

theorem dress_ofFailure (failure : Failure) :
    responder.dress request (.ofFailure failure) journal =
      responder.respond (.ofRequest request) failure.classification failure.detail journal := by
  have hcarry (page : Response) : Responder.carry (.ofFailure failure) page = page := by
    simp [Responder.carry, Response.ofFailure, Headers.appendAll, Headers.without, Headers.empty]
  rw [responder.dress_of_failure request _ journal rfl]
  simp only [hcarry]

/-- A record that a failure was logged with. -/
def IsClassified (record : Record) : Bool := (record.field? "classification").isSome

/-- The failure shows in the response, in the records that were logged for it and in the counters, and
everywhere as one of the same class. -/
structure Fails (context : Context) (c : Classification) (response : Response)
    (logged : List Record) (before after : Counters) : Prop where
  page : Brings context.method (Responder.shown (Responder.page context c {})
    (responder.rendering? c (Responder.page context c {}))) response
  contentType : response.headers.getAll .contentType = [.html]
  logged : ∃ record ∈ logged, logged.filter IsClassified = [record] ∧
    record.field? "classification" = some (.str c.name) ∧
    record.field? "status" = some (.int c.status.code)
  counted : ∀ (other : Classification) (status : Status),
    after.count (.responses other status) = before.count (.responses other status) +
      if other = c ∧ status = c.status then 1 else 0

/-- The record of a page that could not be rendered names no class. -/
theorem filter_isClassified_unrendered (context : Context) (c : Classification)
    (rendering : Option Rendering) :
    (Responder.unrendered context c rendering).filter IsClassified = [] := by
  rw [List.filter_eq_nil_iff]
  intro record hrecord
  obtain ⟨cause, panicked, hreports⟩ := Responder.exists_reportsRender context c hrecord
  rw [IsClassified, hreports.request "classification" (by decide)]
  exact Bool.false_ne_true

theorem filter_isClassified_records (context : Context) (c : Classification) (detail : Detail) :
    (responder.records context c detail).filter IsClassified =
      [Responder.classifiedRecord context c detail] := by
  have hfirst : IsClassified (Responder.classifiedRecord context c detail) = true := by
    rw [IsClassified, Responder.field?_classifiedRecord]
    cases detail.fields.get? "classification" <;> rfl
  rw [Responder.records, List.filter_cons_of_pos hfirst, filter_isClassified_unrendered]

theorem fails_respond (fresh : String) (c : Classification) (cause : Option Cause) :
    let identified := identify fresh request
    let context := Context.ofRequest identified
    let made := responder.respond context c { cause } journal
    Fails responder context c (send request.method (echoId identified made.1))
      (responder.records context c { cause }) journal.counters made.2.counters := by
  intro identified context made
  have hlength : made.1.headers.getAll .contentLength = [] :=
    responder.getAll_respond journal context c { cause } .contentLength
  have htype : made.1.headers.getAll .contentType = [.html] :=
    responder.getAll_respond journal context c { cause } .contentType
  have hbody : made.1.body = .ofText (Responder.shown (Responder.page context c {})
      (responder.rendering? c (Responder.page context c {}))) :=
    congrArg Body.ofText (responder.body_fst context c (Responder.page context c {}) _)
  refine ⟨brings_send request.method identified hbody hlength, ?_, ?_, ?_⟩
  · rw [getAll_send request.method _ (by decide), getAll_echoId identified made.1 (by decide), htype]
  · have hreports := Responder.reportsFailure_classifiedRecord context c { cause }
    exact ⟨_, List.mem_cons_self, filter_isClassified_records responder context c { cause },
      hreports.classification rfl, hreports.status rfl⟩
  · exact responder.count_respond context c { cause } journal

theorem serve_of_unclassified {fresh : String} {answered : Response}
    (hanswer : answer (identify fresh request) = answered) (hnone : answered.failure = none)
    (hstatus : ∀ c : Classification, c.status ≠ answered.status) :
    serve responder fresh request journal =
      (send request.method (echoId (identify fresh request) answered), journal) := by
  have hdress := dress_of_unclassified responder (identify fresh request) journal hnone hstatus
  rw [← hanswer] at hdress ⊢
  simp only [serve, hdress]
  rfl

theorem serve_of_failure {fresh : String} {failure : Failure}
    (hanswer : answer (identify fresh request) = .ofFailure failure) :
    serve responder fresh request journal =
      let made := responder.respond (.ofRequest (identify fresh request)) failure.classification
        failure.detail journal
      (send request.method (echoId (identify fresh request) made.1), made.2) := by
  simp only [serve, hanswer, dress_ofFailure]
  rfl

/-- Every request comes to the outcome of its method and path. The status is that of a class exactly
when one classified record was logged, and a request that has not failed leaves the journal as it
was. -/
theorem serve_outcome (hkeeps : responder.sink.KeepsAll) (fresh : String) :
    let context := Context.ofRequest (identify fresh request)
    let served := serve responder fresh request journal
    let fared := outcome request.method request.uri.path (causes request)
    ∃ logged, served.2.kept = journal.kept ++ logged ∧
      served.1.status = fared.status ∧
      (served.1.status.code ∈ [401, 403, 404, 500] ↔ logged.countP IsClassified = 1) ∧
      match fared with
      | .healthy => Brings request.method "ok" served.1 ∧ served.2 = journal
      | .refused => served.2 = journal
      | .malformed => served.2 = journal
      | .failed c => Fails responder context c served.1 logged journal.counters served.2.counters := by
  intro context served fared
  have hanswers : fared.Answers (answer (identify fresh request)) := answers_outcome _
  -- An answer that is not replaced: nothing is logged, and its status is that of no class.
  have hquiet {answered : Response} (hanswer : answer (identify fresh request) = answered)
      (hnone : answered.failure = none) (hstatus : ∀ c : Classification, c.status ≠ answered.status) :
      served = (send request.method (echoId (identify fresh request) answered), journal) ∧
        (answered.status.code ∈ [401, 403, 404, 500] ↔ [].countP IsClassified = 1) := by
    refine ⟨serve_of_unclassified responder request journal hanswer hnone hstatus, ?_⟩
    rw [← Classification.exists_status_iff]
    exact ⟨fun ⟨c, hc⟩ => absurd hc (hstatus c), nofun⟩
  clear_value fared
  cases fared with
  | healthy =>
    obtain ⟨hserved, hiff⟩ := hquiet hanswers rfl fun c => by cases c <;> decide
    rw [hserved, status_send]
    exact ⟨[], (List.append_nil _).symm, rfl, hiff, brings_send _ _ rfl rfl, rfl⟩
  | refused =>
    obtain ⟨hserved, hiff⟩ := hquiet hanswers rfl fun c => by cases c <;> decide
    rw [hserved, status_send]
    exact ⟨[], (List.append_nil _).symm, rfl, hiff, rfl⟩
  | malformed =>
    obtain ⟨text, hanswer⟩ := hanswers
    have hstatus : ∀ c : Classification, c.status ≠ .badRequest := by
      intro c
      cases c <;> decide
    obtain ⟨hserved, hiff⟩ := hquiet hanswer rfl hstatus
    rw [hserved, status_send]
    exact ⟨[], (List.append_nil _).symm, rfl, hiff, rfl⟩
  | failed c =>
    obtain ⟨cause, hanswer⟩ := hanswers
    have hserved : served = _ := serve_of_failure responder request journal hanswer
    rw [hserved]
    simp only [status_send]
    refine ⟨_, responder.kept_respond context c { cause } journal hkeeps, rfl, ?_,
      fails_respond responder request journal fresh c cause⟩
    rw [List.countP_eq_length_filter, filter_isClassified_records]
    exact iff_of_true (Classification.exists_status_iff.1 ⟨c, rfl⟩) rfl

/-- One record and one count for a request that is forbidden. -/
theorem serve_outcome_forbidden :
    let responder : Responder := ⟨.memory, none⟩
    let request : Request := ⟨.get, ⟨"/forbidden", none⟩, .empty, none⟩
    let served := serve responder "trace" request {}
    served.1.status = .forbidden ∧ served.2.kept.countP IsClassified = 1 ∧
      served.2.counters.count (.responses .forbidden .forbidden) = 1 := by
  intro responder request served
  obtain ⟨logged, hkept, hstatus, hiff, hfails⟩ :=
    serve_outcome responder request {} Sink.keepsAll_memory "trace"
  have hlogged : served.2.kept = logged := hkept
  have hforbidden : served.1.status = .forbidden := hstatus
  refine ⟨hforbidden, ?_, ?_⟩
  · rw [hlogged]
    exact hiff.1 (by rw [hstatus]; decide)
  · exact hfails.counted .forbidden .forbidden

/-- To HEAD the site does not say in the body that it is healthy. -/
theorem exists_healthy_without_body :
    ¬ ∀ (responder : Responder) (request : Request) (journal : Journal) (fresh : String),
      responder.sink.KeepsAll → request.method = .get ∨ request.method = .head →
      request.uri.path = "/health" →
      (serve responder fresh request journal).1.status = .ok ∧
        (serve responder fresh request journal).1.body = .ofText "ok" := by
  intro h
  obtain ⟨-, hbody⟩ := h ⟨.memory, none⟩ ⟨.head, ⟨"/health", none⟩, .empty, none⟩ {} "trace"
    Sink.keepsAll_memory (.inr rfl) rfl
  have hempty : Body.empty = .ofText "ok" := (body_send .head _ _).symm.trans hbody
  exact absurd (congrArg (fun body => body.bytes.size) hempty) (by decide)

end Site

end ErrorPages
