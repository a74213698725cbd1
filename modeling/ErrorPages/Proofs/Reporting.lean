import ErrorPages.Proofs.Secrecy
import ErrorPages.Proofs.Site

/-! What becomes of a failure that a handler reports. Its class is the one with which the handler began;
of several messages, and of several causes, the last one stays. This is what the page and the record say,
whatever the handler made of the answer besides. -/

namespace ErrorPages

namespace Failure

def Start.classification : Start → Classification
  | .ofClassification c => c
  | .forbidden => .forbidden
  | .unauthorized => .unauthorized
  | .notFound => .notFound
  | .internal _ => .internalError
  | .internalText _ => .internalError

def Start.cause? : Start → Option Cause
  | .internal cause => some cause
  | .internalText text => some (.root text)
  | _ => none

def Change.message? : Change → Option String
  | .message text => some text
  | .cause _ => none

def Change.cause? : Change → Option Cause
  | .message _ => none
  | .cause error => some error

theorem failure_start (start : Start) :
    start.failure = { classification := start.classification, cause := start.cause? } := by
  cases start <;> rfl

theorem classification_change (failure : Failure) (change : Change) :
    (failure.change change).classification = failure.classification := by
  cases change <;> rfl

theorem publicMessage_change (failure : Failure) (change : Change) :
    (failure.change change).publicMessage = change.message?.or failure.publicMessage := by
  cases change <;> rfl

theorem cause_change (failure : Failure) (change : Change) :
    (failure.change change).cause = change.cause?.or failure.cause := by
  cases change <;> rfl

/-- What some changes set and the others leave is in the end as it was set last. -/
theorem foldl_change_eq_or {α : Type} (view : Failure → Option α) (set? : Change → Option α)
    (hstep : ∀ failure change, view (failure.change change) = (set? change).or (view failure))
    (failure : Failure) (changes : List Change) :
    view (changes.foldl change failure) = (changes.filterMap set?).getLast?.or (view failure) := by
  induction changes generalizing failure with
  | nil => rfl
  | cons first rest ih =>
    rw [List.foldl_cons, ih, hstep]
    cases hset : set? first with
    | none => rw [List.filterMap_cons_none hset, Option.none_or]
    | some value =>
      rw [List.filterMap_cons_some hset, List.getLast?_cons]
      cases (rest.filterMap set?).getLast? <;> rfl

theorem classification_foldl_change (failure : Failure) (changes : List Change) :
    (changes.foldl change failure).classification = failure.classification := by
  induction changes generalizing failure with
  | nil => rfl
  | cons first rest ih => rw [List.foldl_cons, ih, classification_change]

/-- The last message and the last cause, if any, and otherwise what the failure began with. -/
theorem made_eq (start : Start) (changes : List Change) :
    made start changes =
      { classification := start.classification
        publicMessage := (changes.filterMap Change.message?).getLast?
        cause := (changes.filterMap Change.cause?).getLast?.or start.cause? } := by
  have hclass := classification_foldl_change start.failure changes
  have hmessage := foldl_change_eq_or publicMessage Change.message? publicMessage_change
    start.failure changes
  have hcause := foldl_change_eq_or cause Change.cause? cause_change start.failure changes
  rw [← made, failure_start] at hclass hmessage hcause
  rw [Option.or_none] at hmessage
  rw [Failure.mk.injEq]
  exact ⟨hclass, hmessage, hcause⟩

end Failure

namespace Responder

open Failure (Start Change)

/-- The answer to a failure that a handler reports, whatever status, headers and body the handler puts on
it. The class is the one that the failure began with; the page shows the last message, or else that of
the class; and one classified record tells the chain of the last cause, or else of the first one. -/
theorem dress_made (responder : Responder) (request : Request) (journal : Journal) (start : Start)
    (changes : List Change) (status : Status) (headers : Headers) (body : Body) :
    let c := start.classification
    let page : Page :=
      { title := c.row.title
        status := c.status.code
        message := some ((changes.filterMap Change.message?).getLast?.getD c.row.message)
        requestId := (Context.ofRequest request).requestId }
    let cause := (changes.filterMap Change.cause?).getLast?.or start.cause?
    let answer := { Response.ofFailure (.made start changes) with status, headers, body }
    let dressed := responder.dress request answer journal
    dressed.1.status = c.status ∧
    dressed.1.body =
      .ofText (shown page (responder.renderer.map fun renderer => renderer c.template page)) ∧
    ∃ logged record, dressed.2.offered = journal.offered ++ logged ∧
      logged.filter Site.IsClassified = [record] ∧
      record.field? "classification" = some (.str c.name) ∧
      record.field? "cause" = some (cause.elim .null fun cause => .str cause.chain) := by
  intro c page cause answer dressed
  let context := Context.ofRequest request
  let detail := (Failure.made start changes).detail
  have hmade := Failure.made_eq start changes
  have hclass : (Failure.made start changes).classification = c :=
    congrArg Failure.classification hmade
  have hmessage : detail.publicMessage = (changes.filterMap Change.message?).getLast? :=
    congrArg Failure.publicMessage hmade
  have hcause : detail.cause = cause := congrArg Failure.cause hmade
  have hdressed : dressed =
      (carry answer (responder.respond context c detail journal).1,
        (responder.respond context c detail journal).2) := by
    rw [← hclass]
    exact responder.dress_of_failure request answer journal rfl
  have hpage : Responder.page context c detail = page := by
    rw [Responder.page, hmessage]
  -- a failure brings no fields of its own, so nothing stands over its class and its cause
  have hreports := reportsFailure_classifiedRecord context c detail
  refine ⟨?_, ?_, responder.records context c detail, classifiedRecord context c detail, ?_,
    Site.filter_isClassified_records responder context c detail, ?_, ?_⟩
  · rw [hdressed]
    rfl
  · rw [hdressed, ← hpage, responder.respond_fst context c detail journal]
    rfl
  · rw [hdressed]
    exact responder.offered_respond context c detail journal
  · exact hreports.classification rfl
  · rw [← hcause]
    exact hreports.cause rfl

end Responder

end ErrorPages
