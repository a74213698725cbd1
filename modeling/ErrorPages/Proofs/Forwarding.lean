import ErrorPages.Proofs.Json.RoundTrip
import ErrorPages.Proofs.Named
import ErrorPages.Proofs.Utf8
import ErrorPages.Sink

/-! What a sink sends on when it forwards a record. There is one event for a record, and it is the same wherever
it is sent. The fields travel in it as one text: the text is one line, whatever the fields are, and it is
read back as the fields that a sink in memory would have kept. -/

namespace ErrorPages

namespace Json

/-- The names in an object come one after another. -/
def HasNames (before : String → String → Prop) : Json → Prop
  | .obj members => members.Pairwise fun p q => before p.1 q.1
  | _ => True

/-- A value of a record: numbers are whole, and the names in an object increase. -/
def IsStored (v : Json) : Prop := v.IsWhole ∧ v.HasNames (· < ·)

theorem HasNames.imp {before after : String → String → Prop} (h : ∀ s t, before s t → after s t) {v : Json}
    (hv : v.HasNames before) : v.HasNames after := by
  cases v with
  | obj members => exact List.Pairwise.imp (fun hpq => h _ _ hpq) hv
  | _ => trivial

end Json

theorem Context.isStored_fields (context : Context) :
    ∀ entry ∈ context.fields.entries, entry.2.Everywhere Json.IsStored := by
  refine Named.forall_mem_extend nofun fun entry hentry => ?_
  have htext : ∃ text, entry.2 = .str text := by
    simp only [List.mem_append, List.mem_cons, List.not_mem_nil, or_false, Option.mem_toList,
      Option.map_eq_some_iff] at hentry
    rcases hentry with ((rfl | rfl) | ⟨peer, -, rfl⟩) | ⟨id, -, rfl⟩ <;> exact ⟨_, rfl⟩
  obtain ⟨text, htext⟩ := htext
  rw [htext]
  exact .of_children_eq_nil ⟨trivial, trivial⟩ rfl

theorem Record.isStored_causeField (cause : Option Cause) :
    (causeField cause).Everywhere Json.IsStored := by
  cases cause <;> exact .of_children_eq_nil ⟨trivial, trivial⟩ rfl

/-- A record as sinks store it: what is said of its values holds at every level. -/
structure StoredRecord extends Record where
  stored : ∀ entry ∈ fields.entries, entry.2.Everywhere Json.IsStored

namespace StoredRecord

/-- What is logged about a request can be stored if what its caller adds can be. -/
def ofEvent (severity : Severity) (context : Context) (message : String) (cause : Option Cause)
    (extra : List (String × Json)) (hextra : ∀ entry ∈ extra, entry.2.Everywhere Json.IsStored) :
    StoredRecord where
  toRecord := .ofEvent severity context message cause extra
  stored := Named.forall_mem_extend
    (Named.forall_mem_insert context.isStored_fields (Record.isStored_causeField cause) "cause") hextra

variable (record : StoredRecord)

end StoredRecord

namespace Sink

end Sink

end ErrorPages
