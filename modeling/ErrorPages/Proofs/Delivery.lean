import ErrorPages.Proofs.FailureResponse

/-! What a failure leaves in the journal besides the records that the sink was offered: the records it
kept, and the counters. A sink that keeps every record has kept those of the failure in their order,
and of the counters of responses only the one of the class moves, by one. What the records say of the
request is what was kept of it. -/

namespace ErrorPages

namespace Sink

/-- The sink stores every record, whatever it does besides. -/
def KeepsAll (sink : Sink) : Prop :=
  ∀ earlier record, (sink.react earlier record).keeps = true

theorem keepsAll_memory : Sink.memory.KeepsAll := fun _ _ => rfl

variable (sink : Sink) (record : Record) (journal : Journal)

theorem kept_offer : (sink.offer record journal).2.kept =
    journal.kept ++ if (sink.react journal.offered record).keeps then [record] else [] := by
  unfold offer
  dsimp only
  split <;> split <;> simp [Journal.keep, Journal.emit, Journal.emitBound]

theorem counters_offer : (sink.offer record journal).2.counters = journal.counters := by
  unfold offer
  dsimp only
  split <;> split <;> rfl

theorem dropped_offer : (sink.offer record journal).2.dropped = journal.dropped := by
  unfold offer
  dsimp only
  split <;> split <;> rfl

theorem kept_log : (sink.log record journal).kept = (sink.offer record journal).2.kept := by
  rw [log_eq]
  cases (sink.react journal.offered record).outcome <;> rfl

/-- A record that is not taken is counted, and no other counter moves. -/
theorem counters_log : (sink.log record journal).counters =
    if (sink.react journal.offered record).outcome = .accepted then journal.counters
    else journal.counters.bump .droppedRecords := by
  rw [log_eq, ← sink.counters_offer record journal]
  cases (sink.react journal.offered record).outcome <;> rfl

theorem dropped_log : (sink.log record journal).dropped =
    journal.dropped + if (sink.react journal.offered record).outcome = .accepted then 0 else 1 := by
  rw [log_eq, ← sink.dropped_offer record journal]
  cases (sink.react journal.offered record).outcome <;> rfl

theorem count_log {counter : Counter} (h : counter ≠ .droppedRecords) :
    (sink.log record journal).counters.count counter = journal.counters.count counter := by
  rw [counters_log]
  split
  · rfl
  · rw [Counters.count_bump, if_neg h, Nat.add_zero]

theorem kept_log_of_keepsAll (h : sink.KeepsAll) :
    (sink.log record journal).kept = journal.kept ++ [record] := by
  rw [kept_log, kept_offer, h, if_pos rfl]

end Sink

namespace Responder

variable (responder : Responder) (context : Context) (c : Classification) (detail : Detail)
  (page : Page) (journal : Journal)

/-- The names under which a responder puts something of its own into a record. -/
def ownNames : List String := ["cause", "classification", "status", "event", "template", "panicked"]

/-- Under all other names the records of a failure have the facts of its request, unless the failure
brings fields too. -/
theorem field?_of_mem_records {detail : Detail} (hfields : detail.fields = .empty)
    {record : Record} (h : record ∈ responder.records context c detail) {name : String}
    (hname : name ∉ ownNames) : record.field? name = context.fact? name := by
  simp only [ownNames, List.mem_cons, List.not_mem_nil, or_false, not_or] at hname
  obtain ⟨hcause, hclass, hstatus, hevent, htemplate, hpanicked⟩ := hname
  rcases List.mem_cons.1 h with rfl | hunrendered
  · have hreports := reportsFailure_classifiedRecord context c detail
    exact hreports.request name (by simp [hclass, hstatus, hcause]) (by rw [hfields]; rfl)
  · obtain ⟨cause, panicked, hreports⟩ := exists_reportsRender context c hunrendered
    exact hreports.request name (by simp [hevent, htemplate, hcause, hpanicked])

theorem kept_body (h : responder.sink.KeepsAll) : (responder.body context c page journal).2.kept =
    journal.kept ++ unrendered context c (responder.rendering? c page) := by
  rw [body_snd]
  rcases responder.rendering? c page with _ | ⟨text, _ | e | _⟩
  · exact (List.append_nil _).symm
  · exact (List.append_nil _).symm
  · exact responder.sink.kept_log_of_keepsAll _ _ h
  · exact responder.sink.kept_log_of_keepsAll _ _ h

theorem kept_respond (h : responder.sink.KeepsAll) :
    (responder.respond context c detail journal).2.kept =
      journal.kept ++ responder.records context c detail := by
  rw [respond_eq, records, List.append_cons,
    ← responder.sink.kept_log_of_keepsAll (classifiedRecord context c detail) journal h]
  exact responder.kept_body context c _ _ h

theorem count_body (c' : Classification) (status : Status) :
    (responder.body context c page journal).2.counters.count (.responses c' status) =
      journal.counters.count (.responses c' status) := by
  have hbump (reason : Fallback) : (journal.bump (.fallbacks reason)).counters.count
      (.responses c' status) = journal.counters.count (.responses c' status) := by
    simp [Journal.bump, Counters.count_bump]
  rw [body_snd]
  rcases responder.rendering? c page with _ | ⟨text, _ | e | _⟩
  · exact hbump .unconfigured
  · rfl
  · exact (responder.sink.count_log _ _ (by simp)).trans (hbump .renderError)
  · exact (responder.sink.count_log _ _ (by simp)).trans (hbump .renderPanic)

/-- Of the counters of responses, that of the class counts the failure, and no other one moves. -/
theorem count_respond (c' : Classification) (status : Status) :
    (responder.respond context c detail journal).2.counters.count (.responses c' status) =
      journal.counters.count (.responses c' status) +
        if c' = c ∧ status = c.status then 1 else 0 := by
  rw [respond_eq]
  refine (responder.count_body context c _ _ c' status).trans ?_
  rw [logged, Journal.bump, Counters.count_bump, responder.sink.count_log _ _ (by simp)]
  simp

end Responder

end ErrorPages
