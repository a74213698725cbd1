import ErrorPages.Proofs.Form
import ErrorPages.Proofs.Secrecy
import ErrorPages.Proofs.Site

/-! The cause of an internal error, from the query to the log. The one cause that the query names is logged
exactly as it was meant, whatever text it is, and a query that names none is logged with a fixed text. The
page does not depend on it. A query that names more than one is not an internal error at all: it is
refused, and nothing is logged. -/

namespace ErrorPages.Site

/-- Asks for an internal error. -/
def asking (headers : Headers) (peer : Option SocketAddress) (query : Option String) : Request :=
  ⟨.get, ⟨"/error", query⟩, headers, peer⟩

/-- What is shown and logged for an internal error with this text as its cause: the page of the class, and
one classified record, which is followed by another one only if the page could not be rendered. -/
structure FailsFor (responder : Responder) (context : Context) (text : String) (journal : Journal)
    (served : Response × Journal) : Prop where
  status : served.1.status.code = 500
  body : served.1.body = .ofText (Responder.shown (Responder.page context .internalError {})
    (responder.rendering? .internalError (Responder.page context .internalError {})))
  logged : ∃ record, IsClassified record = true ∧ record.field? "cause" = some (.str text) ∧
    served.2.offered = journal.offered ++ record :: Responder.unrendered context .internalError
      (responder.rendering? .internalError (Responder.page context .internalError {}))

/-- What is answered to a query that names more than one cause. -/
structure Refuses (journal : Journal) (served : Response × Journal) : Prop where
  status : served.1.status.code = 400
  body : served.1.body = .ofText "Failed to deserialize query string: duplicate field `cause`"
  unchanged : served.2 = journal

variable (responder : Responder) (fresh : String) (journal : Journal) (headers : Headers)
  (peer : Option SocketAddress)

theorem answer_asking (query : Option String) :
    answer (identify fresh (asking headers peer query)) = failInternally (query.getD "") := rfl

/-- The whole of the answer to a failure, in which its cause does not occur. -/
theorem serve_asking {query : Option String} {text : String}
    (h : failInternally (query.getD "") = .ofFailure (.internalText text)) :
    let identified := identify fresh (asking headers peer none)
    let made := responder.respond (.ofRequest identified) .internalError
      { cause := some (.root text) } journal
    serve responder fresh (asking headers peer query) journal =
      (send .get (echoId identified made.1), made.2) :=
  serve_of_failure responder (asking headers peer query) journal
    ((answer_asking fresh headers peer query).trans h)

theorem failsFor_serve {query : Option String} {text : String}
    (h : failInternally (query.getD "") = .ofFailure (.internalText text)) :
    FailsFor responder (.ofRequest (identify fresh (asking headers peer none))) text journal
      (serve responder fresh (asking headers peer query) journal) := by
  rw [serve_asking responder fresh journal headers peer h]
  refine ⟨?_, ?_, _, ?_, ?_, responder.offered_respond _ _ _ _⟩
  · exact congrArg Status.code (status_send _ _ _)
  · rw [body_send]
    exact congrArg Body.ofText (responder.body_fst _ _ _ _)
  · rw [IsClassified, (Responder.reportsFailure_classifiedRecord _ _ _).classification rfl]
    rfl
  · exact (Responder.reportsFailure_classifiedRecord _ _ _).cause rfl

theorem refuses_serve {query : Option String}
    (h : 2 ≤ (Form.values (query.getD "") "cause").length) :
    Refuses journal (serve responder fresh (asking headers peer query) journal) := by
  have hanswer : failInternally (query.getD "") =
      .ofText .badRequest "Failed to deserialize query string: duplicate field `cause`" := by
    unfold failInternally
    match Form.values (query.getD "") "cause", h with
    | _ :: _ :: _, _ => rfl
  rw [serve_of_unclassified responder (asking headers peer query) journal
    ((answer_asking fresh headers peer query).trans hanswer) rfl fun c => by cases c <;> decide]
  exact ⟨congrArg Status.code (status_send _ _ _), body_send _ _ _, rfl⟩

theorem values_encode (text : String) : Form.values (Form.encode [("cause", text)]) "cause" = [text] := by
  rw [Form.values, Form.pairs_encode]
  rfl

theorem ofText?_encode {entries : List (String × String)}
    (h : ("/error?" ++ Form.encode entries).utf8ByteSize ≤ Uri.maxLength) :
    Uri.ofText? ("/error?" ++ Form.encode entries) = some ⟨"/error", some (Form.encode entries)⟩ := by
  have htarget : ("/error?" ++ Form.encode entries).toList =
      ['/', 'e', 'r', 'r', 'o', 'r'] ++ '?' :: (Form.encode entries).toList := by
    simp
  have hpath : ∀ c ∈ ['/', 'e', 'r', 'r', 'o', 'r'], Uri.isPathChar c = true := by simp [Uri.isPathChar]
  rw [Uri.ofText?, if_pos h, htarget]
  exact Form.ofPathAndQuery?_encode entries hpath

/-- An internal error is logged with the one cause that its query names. Where a form names it, every text
is logged as it is, and the response is the same for all of them. -/
theorem serve_error :
    let context := Context.ofRequest (identify fresh (asking headers peer none))
    let serve (query : Option String) := serve responder fresh (asking headers peer query) journal
    let naming (text : String) := Form.encode [("cause", text)]
    (∀ query : Option String,
      match (Form.pairs (query.getD "")).filter (·.1 = "cause") with
      | [] => FailsFor responder context "unhandled failure" journal (serve query)
      | [(_, text)] => FailsFor responder context text journal (serve query)
      | _ :: _ :: _ => Refuses journal (serve query)) ∧
    (∀ text, FailsFor responder context text journal (serve (some (naming text)))) ∧
    (∀ text text', (serve (some (naming text))).1 = (serve (some (naming text'))).1) ∧
    ∀ text, ("/error?" ++ naming text).utf8ByteSize ≤ Uri.maxLength →
      Uri.ofText? ("/error?" ++ naming text) = some (asking headers peer (some (naming text))).uri := by
  intro context serve naming
  have hnaming (text : String) : failInternally ((some (naming text)).getD "") =
      .ofFailure (.internalText text) := by
    rw [Option.getD_some, failInternally, values_encode]
  refine ⟨fun query => ?_, fun text => ?_, fun text text' => ?_, fun text => ofText?_encode⟩
  · cases hnamed : (Form.pairs (query.getD "")).filter (·.1 = "cause") with
    | nil =>
      refine failsFor_serve responder fresh journal headers peer ?_
      rw [failInternally, Form.values, hnamed]
      rfl
    | cons first rest =>
      cases rest with
      | nil =>
        refine failsFor_serve responder fresh journal headers peer ?_
        rw [failInternally, Form.values, hnamed]
        rfl
      | cons second rest =>
        refine refuses_serve responder fresh journal headers peer ?_
        rw [Form.values, hnamed]
        simp
  · exact failsFor_serve responder fresh journal headers peer (hnaming text)
  · have hserved (text : String) := serve_asking responder fresh journal headers peer (hnaming text)
    simp only [serve, hserved, Responder.respond_fst]
    rfl

/-- A cause with signs of the form in it, between other names; and two causes. -/
theorem serve_error_reserved :
    let context := Context.ofRequest (identify "trace" (asking .empty none none))
    let serve (query : String) := serve ⟨.memory, none⟩ "trace" (asking .empty none (some query)) {}
    FailsFor ⟨.memory, none⟩ context "a&cause=b +%é" {}
      (serve "x=1&cause=a%26cause%3Db+%2B%25%C3%A9&x=2") ∧
    Refuses {} (serve "cause=a&x=1&cause=") := by
  intro context serve
  obtain ⟨hquery, -, -, -⟩ := serve_error ⟨.memory, none⟩ "trace" {} .empty none
  constructor
  · have hnamed : (Form.pairs "x=1&cause=a%26cause%3Db+%2B%25%C3%A9&x=2").filter (·.1 = "cause") =
        [("cause", "a&cause=b +%é")] := by
      decide +kernel
    have hfails := hquery (some "x=1&cause=a%26cause%3Db+%2B%25%C3%A9&x=2")
    rwa [Option.getD_some, hnamed] at hfails
  · have hnamed : (Form.pairs "cause=a&x=1&cause=").filter (·.1 = "cause") =
        [("cause", "a"), ("cause", "")] := by
      decide +kernel
    have hrefuses := hquery (some "cause=a&x=1&cause=")
    rwa [Option.getD_some, hnamed] at hrefuses

end ErrorPages.Site
