import ErrorPages.Proofs.Site
import ErrorPages.Proofs.Utf8

/-! The id of a request. It is the first one that the request came with, or else the fresh one. The
response carries this id and no other; and if it can be written as text, the records of the request and
its page name that text, and otherwise no id at all. -/

namespace ErrorPages

namespace HeaderValue

theorem lt_of_visible {b : UInt8} (h : visible b = true) : b.toNat < 128 := by
  simp only [visible, Bool.or_eq_true, Bool.and_eq_true, decide_eq_true_eq, beq_iff_eq,
    UInt8.lt_iff_toNat_lt] at h
  rcases h with ⟨-, hlt⟩ | rfl
  · exact Nat.lt_trans hlt (by decide)
  · decide

/-- The text of a value has the bytes of the value. -/
theorem toUTF8_of_text? {value : HeaderValue} {text : String} (h : value.text? = some text) :
    text.toUTF8.data.toList = value.bytes := by
  obtain ⟨hvisible, htext⟩ := Option.ite_none_right_eq_some.1 h
  obtain rfl := Option.some.inj htext
  rw [← Text.toList_eq_data_toList]
  exact Text.toList_toUTF8_of_ascii fun b hb => lt_of_visible (List.all_eq_true.1 hvisible b hb)

theorem text?_eq (value : HeaderValue) :
    (value.bytes.all visible = true ∧
      ∃ text : String, text.toUTF8.data.toList = value.bytes ∧ value.text? = some text) ∨
    (value.bytes.all visible = false ∧ value.text? = none) := by
  cases hvisible : value.bytes.all visible with
  | true =>
    have htext : value.text? = some _ := if_pos hvisible
    exact .inl ⟨rfl, _, toUTF8_of_text? htext, htext⟩
  | false =>
    have hnone : value.text? = none := if_neg (by simp [hvisible])
    exact .inr ⟨rfl, hnone⟩

end HeaderValue

namespace Site

variable (responder : Responder) (fresh : String) (request : Request) (journal : Journal)

theorem get?_identify : (identify fresh request).headers.get? .requestId =
    some ((request.headers.get? .requestId).getD (.ofText fresh)) := by
  unfold identify Headers.get?
  rw [Headers.getAll_supply]
  cases h : request.headers.getAll .requestId with
  | nil => rfl
  | cons id rest => rfl

/-- An answer without an id is sent with that of the request. -/
theorem getAll_requestId_send {request : Request} {id : HeaderValue}
    (hid : request.headers.get? .requestId = some id) (method : Method) {answer : Response}
    (hnone : answer.headers.getAll .requestId = []) :
    (send method (echoId request answer)).headers.getAll .requestId = [id] := by
  rw [getAll_send method _ (by decide), echoId, hid]
  exact (Headers.getAll_supply _ _ _ _).trans (if_pos ⟨rfl, hnone⟩)

/-- All records of a failure name the id of its request, if it has one as text. -/
theorem field?_requestId (context : Context) (c : Classification) (cause : Option Cause)
    {record : Record} (h : record ∈ Responder.records responder context c { cause }) :
    record.field? "request_id" = context.requestId.map .str :=
  responder.field?_of_mem_records context c rfl h (by decide)

/-- A request gets an answer that is sent as it is, without an id and without a trace in the journal, or
it fails and is answered for its class. -/
theorem serve_cases :
    let identified := identify fresh request
    let served := serve responder fresh request journal
    let fared := outcome request.method request.uri.path (causes request)
    (∃ answered, answered.headers.getAll .requestId = [] ∧ (∀ c, fared ≠ .failed c) ∧
      served = (send request.method (echoId identified answered), journal)) ∨
    ∃ c cause, fared = .failed c ∧
      let made := responder.respond (.ofRequest identified) c { cause } journal
      served = (send request.method (echoId identified made.1), made.2) := by
  intro identified served fared
  have hanswers : fared.Answers (answer identified) := answers_outcome identified
  clear_value fared
  cases fared with
  | healthy =>
    refine .inl ⟨_, ?_, nofun, serve_of_unclassified responder request journal hanswers rfl ?_⟩
    · rfl
    · intro c
      cases c <;> decide
  | refused =>
    refine .inl ⟨_, ?_, nofun, serve_of_unclassified responder request journal hanswers rfl ?_⟩
    · decide
    · intro c
      cases c <;> decide
  | malformed =>
    obtain ⟨text, hanswer⟩ := hanswers
    have hstatus : ∀ c : Classification, c.status ≠ .badRequest := by
      intro c
      cases c <;> decide
    exact .inl ⟨_, rfl, nofun, serve_of_unclassified responder request journal hanswer rfl hstatus⟩
  | failed c =>
    obtain ⟨cause, hanswer⟩ := hanswers
    exact .inr ⟨c, cause, rfl, serve_of_failure responder request journal hanswer⟩

/-- The records of a request name this id, and so does the page of a failed one, where it stands
escaped. -/
structure Names (responder : Responder) (method : Method) (fared : Outcome) (response : Response)
    (logged : List Record) (id : Option String) : Prop where
  records : ∀ record ∈ logged, record.field? "request_id" = id.map .str
  page : ∀ c, fared = .failed c → ∃ page : Page, page.requestId = id ∧
    Placeholder.requestId.value page = Markup.escape (id.getD "") ∧
    (∃ front, page.builtIn = front ++ id.elim "" Page.requestIdLine ++ "</body>\n</html>\n") ∧
    Brings method (Responder.shown page (responder.rendering? c page)) response

theorem names_of_failure (c : Classification) (cause : Option Cause) :
    let identified := identify fresh request
    let context := Context.ofRequest identified
    let made := responder.respond context c { cause } journal
    Names responder request.method (.failed c) (send request.method (echoId identified made.1))
      (responder.records context c { cause }) context.requestId := by
  intro identified context made
  refine ⟨fun record h => field?_requestId responder context c cause h, ?_⟩
  intro other hsame
  obtain rfl := Outcome.failed.inj hsame
  have hfails := fails_respond responder request journal fresh c cause
  exact ⟨Responder.page context c {}, rfl, rfl, ⟨_, rfl⟩, hfails.page⟩

/-- The id on the response is the one whose text the records and the page name. -/
theorem exists_names :
    let id := (request.headers.get? .requestId).getD (.ofText fresh)
    let served := serve responder fresh request journal
    served.1.headers.getAll .requestId = [id] ∧
    ∃ logged, served.2.offered = journal.offered ++ logged ∧
      Names responder request.method (outcome request.method request.uri.path (causes request))
        served.1 logged id.text? := by
  intro id served
  have hid : (identify fresh request).headers.get? .requestId = some id :=
    get?_identify fresh request
  have hcontext : (Context.ofRequest (identify fresh request)).requestId = id.text? := by
    simp only [Context.ofRequest, hid, Option.bind_some]
  obtain ⟨answered, hnone, hfared, hserved⟩ | ⟨c, cause, hfared, hserved⟩ :=
    serve_cases responder fresh request journal
  · have hsent : served.1 = _ := congrArg Prod.fst hserved
    have hjournal : served.2 = journal := congrArg Prod.snd hserved
    refine ⟨?_, [], ?_, nofun, fun c hc => absurd hc (hfared c)⟩
    · rw [hsent]
      exact getAll_requestId_send hid request.method hnone
    · rw [hjournal, List.append_nil]
  · have hsent : served.1 = _ := congrArg Prod.fst hserved
    have hjournal : served.2 = _ := congrArg Prod.snd hserved
    have hnone := responder.getAll_respond journal (.ofRequest (identify fresh request)) c { cause }
      .requestId
    rw [hfared, hsent, hjournal, ← hcontext]
    exact ⟨getAll_requestId_send hid request.method hnone, _,
      responder.offered_respond _ c { cause } journal,
      names_of_failure responder fresh request journal c cause⟩

/-- One request has one id. It is the first that the request came with, or else the fresh one, and the
response carries it byte for byte. The records and the page name it if it is visible text, and name none
if it is not. -/
theorem serve_requestId (responder : Responder) (fresh : String) (request : Request)
    (journal : Journal) :
    let id := (request.headers.get? .requestId).getD (.ofText fresh)
    let served := serve responder fresh request journal
    let fared := outcome request.method request.uri.path (causes request)
    served.1.headers.getAll .requestId = [id] ∧
    ∃ logged, served.2.offered = journal.offered ++ logged ∧
      ((id.bytes.all HeaderValue.visible = true ∧
        ∃ text : String, text.toUTF8.data.toList = id.bytes ∧
          Names responder request.method fared served.1 logged (some text)) ∨
      (id.bytes.all HeaderValue.visible = false ∧
        Names responder request.method fared served.1 logged none)) := by
  intro id served fared
  obtain ⟨hsent, logged, hlogged, hnames⟩ := exists_names responder fresh request journal
  refine ⟨hsent, logged, hlogged, ?_⟩
  obtain ⟨hvisible, text, hbytes, htext⟩ | ⟨hvisible, hnone⟩ := id.text?_eq
  · refine .inl ⟨hvisible, text, hbytes, ?_⟩
    rw [← htext]
    exact hnames
  · refine .inr ⟨hvisible, ?_⟩
    rw [← hnone]
    exact hnames

end Site

end ErrorPages
