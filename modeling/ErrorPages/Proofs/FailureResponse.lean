import ErrorPages.Proofs.RecordFields

/-! One failed request, from its class to its response and the records handed to the sink. The
response is settled by the class, the page and the renderer alone: whatever the sink does with a
record shows in the journal only. A renderer that does not finish costs one more record, and the
text that it had written is lost. -/

namespace ErrorPages

namespace Sink

theorem offered_offer (sink : Sink) (record : Record) (journal : Journal) :
    (sink.offer record journal).2.offered = journal.offered ++ [record] := by
  unfold offer
  dsimp only
  split <;> split <;> rfl

/-- What logging does once the sink has been given the record. -/
theorem log_eq (sink : Sink) (record : Record) (journal : Journal) :
    sink.log record journal =
      let given := (sink.offer record journal).2
      match (sink.react journal.offered record).outcome with
      | .accepted => given
      | .rejected e => given.drop.emit (rejectedEvent e)
      | .panicked => given.drop.emit panickedEvent := by
  have houtcome : (sink.offer record journal).1 = (sink.react journal.offered record).outcome := rfl
  unfold log
  rw [← houtcome]
  split <;> rename_i h <;> rw [h]

/-- Logging hands over the record once, and never tries again. -/
theorem offered_log (sink : Sink) (record : Record) (journal : Journal) :
    (sink.log record journal).offered = journal.offered ++ [record] := by
  rw [← sink.offered_offer record journal, log_eq]
  cases (sink.react journal.offered record).outcome <;> rfl

end Sink

namespace Responder

variable (responder : Responder) (context : Context) (c : Classification) (detail : Detail)
  (page : Page) (journal : Journal)

/-- What the renderer, if there is one, makes of the page of a class. -/
def rendering? : Option Rendering := responder.renderer.map fun renderer => renderer c.template page

/-- The journal when the failure has been logged and counted, and its page is still to be made. -/
def logged : Journal :=
  (responder.sink.log (classifiedRecord context c detail) journal).bump (.responses c c.status)

theorem respond_eq :
    responder.respond context c detail journal =
      let shown := responder.body context c (Responder.page context c detail)
        (responder.logged context c detail journal)
      ({ status := c.status
         headers := Headers.empty.append .contentType .html
         body := .ofText shown.1 }, shown.2) := rfl

theorem offered_logged :
    (responder.logged context c detail journal).offered =
      journal.offered ++ [classifiedRecord context c detail] :=
  responder.sink.offered_log _ _

/-- The text of a page: the whole rendering if it was finished, the built-in page otherwise. -/
def shown : Option Rendering → String
  | some ⟨text, .finished⟩ => text
  | _ => page.builtIn

theorem body_fst : (responder.body context c page journal).1 =
    shown page (responder.rendering? c page) := by
  unfold body rendering?
  cases responder.renderer with
  | none => rfl
  | some renderer =>
    simp only [Option.map_some]
    rcases renderer c.template page with ⟨text, _ | e | _⟩ <;> rfl

/-- What making a page leaves in the journal. The built-in page is counted, and logged before it is shown
in the place of a rendering that was not finished. -/
theorem body_snd : (responder.body context c page journal).2 =
    match responder.rendering? c page with
    | none => journal.bump (.fallbacks .unconfigured)
    | some ⟨_, .finished⟩ => journal
    | some ⟨_, .failed e⟩ =>
      responder.sink.log (renderFailedRecord context c (some e.cause) [])
        (journal.bump (.fallbacks .renderError))
    | some ⟨_, .panicked⟩ =>
      responder.sink.log (renderFailedRecord context c none [("panicked", .bool true)])
        (journal.bump (.fallbacks .renderPanic)) := by
  unfold body rendering?
  cases responder.renderer with
  | none => rfl
  | some renderer =>
    simp only [Option.map_some]
    rcases renderer c.template page with ⟨text, _ | e | _⟩ <;> rfl

/-- The records of a rendering that was not finished. -/
def unrendered : Option Rendering → List Record
  | some ⟨_, .failed e⟩ => [renderFailedRecord context c (some e.cause) []]
  | some ⟨_, .panicked⟩ => [renderFailedRecord context c none [("panicked", .bool true)]]
  | _ => []

/-- Such a record reports the rendering. -/
theorem exists_reportsRender {rendering : Option Rendering} {record : Record}
    (h : record ∈ unrendered context c rendering) :
    ∃ cause panicked, record.ReportsRender context c cause panicked := by
  rcases rendering with _ | ⟨text, _ | e | _⟩
  · cases h
  · cases h
  · obtain rfl := List.mem_singleton.1 h
    exact ⟨some e.cause, false, reportsRender_renderFailedRecord context c (some e.cause) false⟩
  · obtain rfl := List.mem_singleton.1 h
    exact ⟨none, true, reportsRender_renderFailedRecord context c none true⟩

theorem offered_body : (responder.body context c page journal).2.offered =
    journal.offered ++ unrendered context c (responder.rendering? c page) := by
  rw [body_snd]
  rcases responder.rendering? c page with _ | ⟨text, _ | e | _⟩
  · exact (List.append_nil _).symm
  · exact (List.append_nil _).symm
  · exact responder.sink.offered_log _ _
  · exact responder.sink.offered_log _ _

/-- The records of one failure, in the order in which the sink is given them. -/
def records : List Record :=
  let page := Responder.page context c detail
  classifiedRecord context c detail :: unrendered context c (responder.rendering? c page)

theorem offered_respond : (responder.respond context c detail journal).2.offered =
    journal.offered ++ responder.records context c detail := by
  rw [respond_eq, records, List.append_cons, ← responder.offered_logged context c detail journal]
  exact responder.offered_body context c _ _

end Responder

end ErrorPages
