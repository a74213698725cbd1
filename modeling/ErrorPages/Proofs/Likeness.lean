import Mathlib.Data.List.Forall2
import ErrorPages.Proofs.Counting
import ErrorPages.Proofs.Dressing
import ErrorPages.Proofs.Secrecy

/-! Two failures that differ in one thing: a fact of the request, or the cause. The client gets the same
response to both. The records are the same in number, and one by one they differ in the field of that
thing alone; and the same counters move, as far as the sink has no eye for it. -/

namespace ErrorPages

/-- The records differ in one field at most. -/
structure Record.SameBut (name : String) (a b : Record) : Prop where
  severity : a.severity = b.severity
  message : a.message = b.message
  field? : ∀ other, other ≠ name → a.field? other = b.field? other

/-- The requests have the same id, and their facts differ in one field at most. -/
structure Context.SameBut (name : String) (a b : Context) : Prop where
  requestId : a.requestId = b.requestId
  fact? : ∀ other, other ≠ name → a.fact? other = b.fact? other

/-- What comes with the failures is the same, but for the cause if that is the field. -/
structure Detail.SameBut (name : String) (a b : Detail) : Prop where
  publicMessage : a.publicMessage = b.publicMessage
  fields : a.fields = b.fields
  cause : name = "cause" ∨ a.cause = b.cause

theorem Context.SameBut.refl (name : String) (context : Context) : context.SameBut name context :=
  ⟨rfl, fun _ _ => rfl⟩

theorem Context.sameBut_method (context : Context) (method : Method) :
    context.SameBut "method" { context with method } := by
  refine ⟨rfl, fun other hother => ?_⟩
  unfold fact?
  split <;> first | rfl | exact absurd rfl hother

theorem Detail.SameBut.refl (name : String) (detail : Detail) : detail.SameBut name detail :=
  ⟨rfl, rfl, .inr rfl⟩

theorem Record.sameBut_ofEvent {name : String} {context context' : Context}
    (hcontext : context.SameBut name context') {cause cause' : Option Cause}
    (hcause : name = "cause" ∨ cause = cause') (severity : Severity) (message : String)
    (extra : List (String × Json)) :
    (ofEvent severity context message cause extra).SameBut name
      (ofEvent severity context' message cause' extra) := by
  refine ⟨rfl, rfl, fun other hother => ?_⟩
  rw [field?_ofEvent, field?_ofEvent, hcontext.fact? other hother]
  by_cases h : "cause" = other
  · subst h
    obtain rfl := hcause.resolve_left (Ne.symm hother)
    rfl
  · rw [if_neg h, if_neg h]

namespace Sink

/-- Whether the sink takes a record has nothing to do with one field of it, nor with that field of the
records before. -/
def Disregards (sink : Sink) (name : String) : Prop :=
  ∀ ⦃earlier earlier' record record'⦄, List.Forall₂ (Record.SameBut name) earlier earlier' →
    record.SameBut name record' →
    (sink.react earlier record).outcome = (sink.react earlier' record').outcome

theorem ByCount.disregards {sink : Sink} (h : sink.ByCount) (name : String) : sink.Disregards name :=
  fun _ _ _ _ hearlier _ => h _ _ _ _ hearlier.length_eq

theorem byCount_memory : Sink.memory.ByCount := fun _ _ _ _ _ => rfl

theorem Disregards.refused_eq {sink : Sink} {name : String} (h : sink.Disregards name)
    {earlier earlier' records records' : List Record}
    (hearlier : List.Forall₂ (Record.SameBut name) earlier earlier')
    (hrecords : List.Forall₂ (Record.SameBut name) records records') :
    sink.refused earlier records = sink.refused earlier' records' := by
  induction hrecords generalizing earlier earlier' with
  | nil => rfl
  | cons hrecord _ ih =>
    have hnext := List.rel_append hearlier (.cons hrecord .nil)
    rw [refused, refused, h hearlier hrecord, ih hnext]

end Sink

/-- From one journal on, the sink was given these records or those, which one by one differ in one field
at most, and the same counters have moved: all but that of the dropped records, and that one too if the
sink disregards the field. -/
structure Journal.NotedAlike (name : String) (sink : Sink) (before after after' : Journal)
    (logged logged' : List Record) : Prop where
  offered : after.offered = before.offered ++ logged
  offered' : after'.offered = before.offered ++ logged'
  alike : List.Forall₂ (Record.SameBut name) logged logged'
  count : ∀ counter, counter ≠ .droppedRecords ∨ sink.Disregards name →
    after.counters.count counter = after'.counters.count counter

theorem Journal.NotedAlike.refl (name : String) (sink : Sink) (journal : Journal) :
    NotedAlike name sink journal journal journal [] [] where
  offered := (List.append_nil _).symm
  offered' := (List.append_nil _).symm
  alike := .nil
  count _ _ := rfl

namespace Responder

variable (responder : Responder) (c : Classification) {name : String} {context context' : Context}
  {detail detail' : Detail}

/-- The records of a rendering that was not finished differ where the requests do. -/
theorem forall₂_unrendered (hcontext : context.SameBut name context')
    (rendering : Option Rendering) :
    List.Forall₂ (Record.SameBut name) (unrendered context c rendering)
      (unrendered context' c rendering) := by
  have hrecord (cause : Option Cause) (more : List (String × Json)) :
      (renderFailedRecord context c cause more).SameBut name
        (renderFailedRecord context' c cause more) :=
    Record.sameBut_ofEvent hcontext (.inr rfl) _ _ _
  rcases rendering with _ | ⟨text, _ | e | _⟩
  · exact .nil
  · exact .nil
  · exact .cons (hrecord _ _) .nil
  · exact .cons (hrecord _ _) .nil

theorem forall₂_records (hcontext : context.SameBut name context')
    (hdetail : detail.SameBut name detail') :
    List.Forall₂ (Record.SameBut name) (responder.records context c detail)
      (responder.records context' c detail') := by
  rw [records, records, page_eq c hcontext.requestId hdetail.publicMessage]
  refine .cons ?_ (forall₂_unrendered c hcontext _)
  rw [classifiedRecord, classifiedRecord, hdetail.fields]
  exact Record.sameBut_ofEvent hcontext hdetail.cause _ _ _

theorem notedAlike_respond (hcontext : context.SameBut name context')
    (hdetail : detail.SameBut name detail') (journal : Journal) :
    Journal.NotedAlike name responder.sink journal
      (responder.respond context c detail journal).2 (responder.respond context' c detail' journal).2
      (responder.records context c detail) (responder.records context' c detail') := by
  let use : Use := .respond responder.renderer ⟨context, c, detail⟩
  let use' : Use := .respond responder.renderer ⟨context', c, detail'⟩
  have hadds := Use.adds_run responder.sink journal use
  have hadds' := Use.adds_run responder.sink journal use'
  have hcounters : use.counters = use'.counters := by
    have hpage := page_eq c hcontext.requestId hdetail.publicMessage
    simp only [Use.counters, use, use', Use.classification?]
    cases responder.renderer with
    | none => rfl
    | some renderer => simp only [Use.fallback?, Call.page, hpage]
  have halike : List.Forall₂ (Record.SameBut name) (use.records responder.sink)
      (use'.records responder.sink) := responder.forall₂_records c hcontext hdetail
  refine ⟨hadds.offered, hadds'.offered, halike, fun counter hcounter => ?_⟩
  refine (hadds.count counter).trans (Eq.trans ?_ (hadds'.count counter).symm)
  rw [hcounters]
  by_cases hdropped : counter = .droppedRecords
  · have hdisregards := hcounter.resolve_left (not_not_intro hdropped)
    have hsame : List.Forall₂ (Record.SameBut name) journal.offered journal.offered :=
      List.forall₂_same.2 fun record _ => ⟨rfl, rfl, fun _ _ => rfl⟩
    rw [hdisregards.refused_eq hsame halike]
  · rw [if_neg hdropped, if_neg hdropped]

/-- One answer to two requests that differ in one fact is dressed alike, and the records that are given
to the sink have the facts of the request. -/
theorem dress_alike {request request' : Request} (answer : Response) (journal : Journal)
    (hcontext : (Context.ofRequest request).SameBut name (Context.ofRequest request')) :
    let dressed := responder.dress request answer journal
    let dressed' := responder.dress request' answer journal
    dressed.1 = dressed'.1 ∧
    ∃ logged logged',
      Journal.NotedAlike name responder.sink journal dressed.2 dressed'.2 logged logged' ∧
      ∀ other ∉ ownNames,
        (∀ record ∈ logged, record.field? other = (Context.ofRequest request).fact? other) ∧
        ∀ record ∈ logged', record.field? other = (Context.ofRequest request').fact? other := by
  by_cases hsettled : IsSettled answer
  · rw [responder.dress_of_isSettled request journal hsettled,
      responder.dress_of_isSettled request' journal hsettled]
    exact ⟨rfl, [], [], .refl name responder.sink journal, fun _ _ => ⟨nofun, nofun⟩⟩
  · obtain ⟨c, detail, hfields, hdress⟩ := exists_dress_eq hsettled
    have hnoted := responder.notedAlike_respond c hcontext (.refl name detail) journal
    have hpage := respond_fst_eq responder.renderer responder.sink responder.sink journal journal _ _
      detail detail c hcontext.requestId rfl
    rw [hdress, hdress]
    refine ⟨congrArg (carry answer) hpage, _, _, hnoted, fun other hother => ⟨?_, ?_⟩⟩
    · exact fun record h => responder.field?_of_mem_records _ c hfields h hother
    · exact fun record h => responder.field?_of_mem_records _ c hfields h hother

end Responder

end ErrorPages
