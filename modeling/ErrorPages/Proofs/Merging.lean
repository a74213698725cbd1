import ErrorPages.Logging
import ErrorPages.Proofs.FailureResponse

/-! How the fields of a record come together. Whatever is logged about a request, the sink is given one
record, with the facts of the request, the cause, and for a failure the tags of its class. Over them lies
what the caller gives, and of several values for one name the last one counts. -/

namespace ErrorPages

/-- The last value that is given for a name. -/
def lastValue? (fields : List (String × Json)) (name : String) : Option Json :=
  (fields.reverse.find? (·.1 = name)).map (·.2)

theorem isSome_lastValue?_iff {fields : List (String × Json)} {name : String} :
    (lastValue? fields name).isSome ↔ name ∈ fields.map (·.1) := by
  rw [lastValue?, Option.isSome_map, List.find?_isSome, List.mem_map]
  constructor
  · rintro ⟨field, hfield, hname⟩
    exact ⟨field, List.mem_reverse.1 hfield, of_decide_eq_true hname⟩
  · rintro ⟨field, hfield, hname⟩
    exact ⟨field, List.mem_reverse.2 hfield, decide_eq_true hname⟩

theorem lastValue?_eq_none {fields : List (String × Json)} {name : String}
    (h : name ∉ fields.map (·.1)) : lastValue? fields name = none := by
  rw [← isSome_lastValue?_iff, Option.not_isSome_iff_eq_none] at h
  exact h

theorem lastValue?_append_cons {before after : List (String × Json)} {name : String} {value : Json}
    (h : name ∉ after.map (·.1)) :
    lastValue? (before ++ (name, value) :: after) name = some value := by
  have hafter : after.reverse.find? (·.1 = name) = none :=
    Option.map_eq_none_iff.1 (lastValue?_eq_none h)
  rw [lastValue?, List.reverse_append, List.reverse_cons, List.append_assoc, List.find?_append, hafter]
  simp

theorem lastValue?_ofList (fields : List (String × Json)) (name : String) :
    lastValue? (Named.ofList fields).entries name = lastValue? fields name := by
  rw [lastValue?, Named.find?_reverse_entries, Named.ofList, Named.get?_extend, Named.get?_empty,
    Option.or_none, lastValue?]

theorem Context.isSome_fact?_iff (context : Context) (name : String) :
    (context.fact? name).isSome ↔ name ∈ ["method", "path"] ∨
      (name = "remote_addr" ∧ context.peer.isSome) ∨
      (name = "request_id" ∧ context.requestId.isSome) := by
  unfold fact?
  split <;> simp_all

namespace Record

/-- The record has the facts of a request, a cause, and tags, and over them what is given. Its names are
all of theirs. Under each name stands the last value that is given for it, if there is one. -/
structure Merges (record : Record) (context : Context) (cause : Option Cause)
    (tags given : List (String × Json)) : Prop where
  names : ∀ name, record.fields.contains name ↔
    name ∈ ["method", "path", "cause"] ∨ (name = "remote_addr" ∧ context.peer.isSome) ∨
    (name = "request_id" ∧ context.requestId.isSome) ∨
    name ∈ tags.map (·.1) ∨ name ∈ given.map (·.1)
  last : ∀ before name value after, given = before ++ (name, value) :: after →
    name ∉ after.map (·.1) → record.field? name = some value
  tag : ∀ name value, (name, value) ∈ tags → name ∉ given.map (·.1) →
    record.field? name = some value
  cause : "cause" ∉ given.map (·.1) →
    record.field? "cause" = some (cause.elim .null fun cause => .str cause.chain)
  request : ∀ name, name ≠ "cause" → name ∉ tags.map (·.1) → name ∉ given.map (·.1) →
    record.field? name = context.fact? name

/-- A record whose fields lie over each other in this order merges them. -/
theorem merges_of_field? {record : Record} {context : Context} {cause : Option Cause}
    {tags given : List (String × Json)} (htags : tags.Pairwise (·.1 ≠ ·.1))
    (hcause : "cause" ∉ tags.map (·.1))
    (h : ∀ name, record.field? name = (lastValue? given name).or ((lastValue? tags name).or
      (if "cause" = name then some (causeField cause) else context.fact? name))) :
    record.Merges context cause tags given where
  names name := by
    have hcontains : record.fields.contains name = (record.field? name).isSome := rfl
    rw [hcontains, h, Option.isSome_or, Option.isSome_or, Bool.or_eq_true, Bool.or_eq_true,
      isSome_lastValue?_iff, isSome_lastValue?_iff]
    by_cases hname : "cause" = name
    · simp [← hname]
    · rw [if_neg hname, context.isSome_fact?_iff]
      simp only [List.mem_cons, List.not_mem_nil, or_false, Ne.symm hname]
      grind
  last before name value after hgiven hlast := by
    rw [h, hgiven, lastValue?_append_cons hlast, Option.some_or]
  tag name value hmem hgiven := by
    have htag : lastValue? tags name = some value :=
      (find?_map_eq_some_iff (names_ne_reverse htags)).2 (List.mem_reverse.2 hmem)
    rw [h, lastValue?_eq_none hgiven, Option.none_or, htag, Option.some_or]
  cause hgiven := by
    rw [h, lastValue?_eq_none hgiven, lastValue?_eq_none hcause, Option.none_or, Option.none_or,
      if_pos rfl]
    cases cause <;> rfl
  request name hname htag hgiven := by
    rw [h, lastValue?_eq_none hgiven, lastValue?_eq_none htag, Option.none_or, Option.none_or,
      if_neg (Ne.symm hname)]

/-- Of the fields that are laid over a record only the last value for each name counts. -/
theorem merges_ofEvent (severity : Severity) (context : Context) (message : String)
    (cause : Option Cause) {tags laid given : List (String × Json)}
    (htags : tags.Pairwise (·.1 ≠ ·.1)) (hcause : "cause" ∉ tags.map (·.1))
    (hlast : ∀ name, lastValue? laid name = lastValue? given name) :
    (Record.ofEvent severity context message cause (tags ++ laid)).Merges context cause tags given := by
  apply merges_of_field? htags hcause
  intro name
  rw [field?_ofEvent_append, field?_ofEvent, ← hlast]
  rfl

/-- The record of a failure is tagged with its class. -/
theorem merges_ofClassified (c : Classification) (context : Context) (message : String)
    (cause : Option Cause) (given : List (String × Json)) :
    (Record.ofClassified c context message cause given).Merges context cause
      [("classification", .str c.name), ("status", .int c.status.code)] given :=
  merges_ofEvent c.severity context message cause (by simp) (by simp) fun _ => rfl

end Record

/-- The sink is given one record more, of this severity and with this message. -/
structure Journal.Gains (before after : Journal) (record : Record) (severity : Severity)
    (message : String) : Prop where
  offered : after.offered = before.offered ++ [record]
  severity : record.severity = severity
  message : record.message = message

namespace Sink

theorem gains_log (sink : Sink) (record : Record) (journal : Journal) :
    journal.Gains (sink.log record journal) record record.severity record.message :=
  ⟨sink.offered_log record journal, rfl, rfl⟩

/-- Whatever is logged about a request, and whatever the sink does with it, is one record, of the severity
and with the message that are asked for. Besides what its caller gives it has the method and the path of
the request, its peer and its id when there are such, and the cause; and when a failure is logged, the name
and the status of its class. -/
theorem log_merges (sink : Sink) (context : Context) (message : String) (cause : Option Cause)
    (journal : Journal) :
    (∃ record, journal.Gains (sink.logError context message cause journal) record .error message ∧
      record.Merges context cause [] []) ∧
    (∀ fields, ∃ record,
      journal.Gains (sink.logErrorWith context message cause fields journal) record .error message ∧
      record.Merges context cause [] fields) ∧
    (∀ severity extra, ∃ record,
      journal.Gains (sink.logEvent context message cause severity extra journal) record
        severity message ∧
      record.Merges context cause [] extra.entries) ∧
    ∀ c fields, ∃ record,
      journal.Gains (sink.logClassified context message cause c fields journal) record
        c.severity message ∧
      record.Merges context cause
        [("classification", .str c.name), ("status", .int c.status.code)] fields.entries := by
  refine ⟨?_, fun fields => ?_, fun severity extra => ?_, fun c fields => ?_⟩
  · refine ⟨_, sink.gains_log _ journal, ?_⟩
    exact Record.merges_ofEvent .error context message cause .nil List.not_mem_nil fun _ => rfl
  · refine ⟨_, sink.gains_log _ journal, ?_⟩
    exact Record.merges_ofEvent .error context message cause .nil List.not_mem_nil
      (lastValue?_ofList fields)
  · refine ⟨_, sink.gains_log _ journal, ?_⟩
    exact Record.merges_ofEvent severity context message cause .nil List.not_mem_nil fun _ => rfl
  · refine ⟨_, sink.gains_log _ journal, ?_⟩
    exact Record.merges_ofClassified c context message cause fields.entries

end Sink

end ErrorPages
