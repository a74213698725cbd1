import ErrorPages.Proofs.Named
import ErrorPages.Responder

/-! What stands in a log record under a name: the last value that the caller gives for it, then the
cause, then the request's facts. The record of a failure has tags of its own, over which lies what comes
with the failure. The record of a page that could not be rendered uses names that no request has, so it
keeps all facts of the request. -/

namespace ErrorPages

/-- The facts of a request, each under its name. -/
def Context.fact? (context : Context) : String → Option Json
  | "method" => some (.str context.method.name)
  | "path" => some (.str context.path)
  | "remote_addr" => context.peer.map fun peer => .str peer.text
  | "request_id" => context.requestId.map .str
  | _ => none

theorem Context.get?_fields (context : Context) (name : String) :
    context.fields.get? name = context.fact? name := by
  rw [fields, Named.ofList, Named.get?_extend, Named.get?_empty, Option.or_none]
  unfold fact?
  cases context.peer <;> cases context.requestId <;>
    simp only [Option.map_none, Option.map_some, Option.toList_none, Option.toList_some,
      List.append_nil, List.cons_append, List.nil_append, List.reverse_cons, List.reverse_nil,
      List.find?_cons, List.find?_nil]
  all_goals grind

theorem Record.field?_ofEvent (severity : Severity) (context : Context) (message : String)
    (cause : Option Cause) (extra : List (String × Json)) (name : String) :
    (Record.ofEvent severity context message cause extra).field? name =
      ((extra.reverse.find? (·.1 = name)).map (·.2)).or
        (if "cause" = name then some (causeField cause) else context.fact? name) := by
  rw [field?, ofEvent, Named.get?_extend, Named.get?_insert, Context.get?_fields]

/-- What is given later stands over what is given before. -/
theorem Record.field?_ofEvent_append (severity : Severity) (context : Context) (message : String)
    (cause : Option Cause) (extra more : List (String × Json)) (name : String) :
    (Record.ofEvent severity context message cause (extra ++ more)).field? name =
      ((more.reverse.find? (·.1 = name)).map (·.2)).or
        ((Record.ofEvent severity context message cause extra).field? name) := by
  rw [field?_ofEvent, field?_ofEvent, List.reverse_append, List.find?_append, Option.map_or,
    Option.or_assoc]

/-- The record says that a request failed under a class, and why, in the words of the class and at its
severity. A field that comes with the failure stands over what the record has of its own. -/
structure Record.ReportsFailure (record : Record) (context : Context) (c : Classification)
    (detail : Detail) : Prop where
  severity : record.severity = c.severity
  message : record.message = c.row.logMessage
  given : ∀ name value, detail.fields.get? name = some value → record.field? name = some value
  classification : detail.fields.get? "classification" = none →
    record.field? "classification" = some (.str c.name)
  status : detail.fields.get? "status" = none → record.field? "status" = some (.int c.status.code)
  cause : detail.fields.get? "cause" = none →
    record.field? "cause" = some (detail.cause.elim .null fun cause => .str cause.chain)
  request : ∀ name, name ∉ ["classification", "status", "cause"] →
    detail.fields.get? name = none → record.field? name = context.fact? name

/-- The record says that the page of a class could not be rendered for a request, why, and whether
the renderer panicked. -/
structure Record.ReportsRender (record : Record) (context : Context) (c : Classification)
    (cause : Option Cause) (panicked : Bool) : Prop where
  severity : record.severity = .error
  message : record.message = "error page render failed"
  event : record.field? "event" = some (.str "error_page.render_failed")
  template : record.field? "template" = some (.str c.template)
  cause : record.field? "cause" = some (cause.elim .null fun cause => .str cause.chain)
  panicked : record.field? "panicked" = if panicked then some (.bool true) else none
  request : ∀ name, name ∉ ["event", "template", "cause", "panicked"] →
    record.field? name = context.fact? name

namespace Responder

/-- Under its fixed names, too, a record has what comes with the failure, if there is a field of that
name. -/
theorem field?_classifiedRecord (context : Context) (c : Classification) (detail : Detail)
    (name : String) :
    (classifiedRecord context c detail).field? name =
      (detail.fields.get? name).or
        (if "status" = name then some (.int c.status.code)
        else if "classification" = name then some (.str c.name)
        else if "cause" = name then some (Record.causeField detail.cause)
        else context.fact? name) := by
  rw [classifiedRecord, Record.ofClassified, Record.field?_ofEvent_append,
    Named.find?_reverse_entries, Record.field?_ofEvent]
  congr 1
  by_cases hstatus : "status" = name
  · simp [hstatus]
  · by_cases hclass : "classification" = name <;> simp [hstatus, hclass]

theorem reportsFailure_classifiedRecord (context : Context) (c : Classification) (detail : Detail) :
    (classifiedRecord context c detail).ReportsFailure context c detail where
  severity := rfl
  message := rfl
  given name value h := by rw [field?_classifiedRecord, h, Option.some_or]
  classification h := by rw [field?_classifiedRecord, h]; rfl
  status h := by rw [field?_classifiedRecord, h]; rfl
  cause h := by rw [field?_classifiedRecord, h]; cases detail.cause <;> rfl
  request name hname h := by
    simp only [List.mem_cons, List.not_mem_nil, or_false, not_or] at hname
    obtain ⟨hclass, hstatus, hcause⟩ := hname
    rw [field?_classifiedRecord, h, Option.none_or, if_neg (Ne.symm hstatus),
      if_neg (Ne.symm hclass), if_neg (Ne.symm hcause)]

theorem field?_renderFailedRecord (context : Context) (c : Classification) (cause : Option Cause)
    (more : List (String × Json)) (name : String) :
    (renderFailedRecord context c cause more).field? name =
      ((more.reverse.find? (·.1 = name)).map (·.2)).or
        (if "template" = name then some (.str c.template)
        else if "event" = name then some (.str "error_page.render_failed")
        else if "cause" = name then some (Record.causeField cause)
        else context.fact? name) := by
  rw [renderFailedRecord, Record.field?_ofEvent_append, Record.field?_ofEvent]
  by_cases ht : "template" = name
  · simp [ht]
  · by_cases he : "event" = name <;> simp [ht, he]

/-- What the record says when the renderer ended with a cause, and when it panicked. -/
theorem reportsRender_renderFailedRecord (context : Context) (c : Classification)
    (cause : Option Cause) (panicked : Bool) :
    (renderFailedRecord context c cause
      (if panicked then [("panicked", .bool true)] else [])).ReportsRender
        context c cause panicked := by
  refine ⟨rfl, rfl, ?_, ?_, ?_, ?_, fun name hn => ?_⟩
  · rw [field?_renderFailedRecord]; cases panicked <;> rfl
  · rw [field?_renderFailedRecord]; cases panicked <;> rfl
  · rw [field?_renderFailedRecord]; cases panicked <;> cases cause <;> rfl
  · rw [field?_renderFailedRecord]; cases panicked <;> rfl
  · simp only [List.mem_cons, List.not_mem_nil, or_false, not_or] at hn
    obtain ⟨he, ht, hc, hp⟩ := hn
    rw [field?_renderFailedRecord]
    cases panicked <;> simp [Ne.symm he, Ne.symm ht, Ne.symm hc, Ne.symm hp]

end Responder

end ErrorPages
