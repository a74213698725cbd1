import ErrorPages.Proofs.Site

/-! Under which class a failure is logged. Of the records of a failure one has a class, and it is that of
the response unless the failure brings fields of its own for the class or the status: what it brings stands
over what the response says. -/

namespace ErrorPages

/-- The record names the class of the response and has its status. -/
structure Record.Tags (record : Record) (c : Classification) (response : Response) : Prop where
  classification : record.field? "classification" = some (.str c.name)
  status : record.field? "status" = some (.int response.status.code)

namespace Responder

/-- The fields that a record gets from the response, unless the failure brings fields of these names. -/
def tags (c : Classification) : List (String × Json) :=
  [("classification", .str c.name), ("status", .int c.status.code)]

theorem field?_tag (context : Context) {c : Classification} (detail : Detail) {name : String}
    {value : Json} (htag : (name, value) ∈ tags c) :
    (classifiedRecord context c detail).field? name =
      some ((detail.fields.get? name).getD value) := by
  rw [field?_classifiedRecord]
  simp only [tags, List.mem_cons, List.not_mem_nil, or_false, Prod.mk.injEq] at htag
  obtain ⟨rfl, rfl⟩ | ⟨rfl, rfl⟩ := htag
  · cases detail.fields.get? "classification" <;> rfl
  · cases detail.fields.get? "status" <;> rfl

/-- One record of a failure has a class. Its class and its status are those of the response exactly when
no field that comes with the failure says otherwise. -/
theorem exists_tagged (responder : Responder) (context : Context) (c : Classification)
    (detail : Detail) (journal : Journal) :
    let made := responder.respond context c detail journal
    ∃ logged record, made.2.offered = journal.offered ++ logged ∧
      logged.filter Site.IsClassified = [record] ∧
      record.field? "classification" =
        some ((detail.fields.get? "classification").getD (.str c.name)) ∧
      record.field? "status" = some ((detail.fields.get? "status").getD (.int made.1.status.code)) ∧
      (record.Tags c made.1 ↔
        (∀ value, detail.fields.get? "classification" = some value → value = .str c.name) ∧
        ∀ value, detail.fields.get? "status" = some value → value = .int c.status.code) := by
  intro made
  have hclass := field?_tag (c := c) context detail List.mem_cons_self
  have hstatus := field?_tag (c := c) context detail (List.mem_cons_of_mem _ List.mem_cons_self)
  have hmade : made.1.status = c.status := rfl
  refine ⟨responder.records context c detail, classifiedRecord context c detail,
    responder.offered_respond context c detail journal,
    Site.filter_isClassified_records responder context c detail, hclass, hstatus, ?_⟩
  -- a field with a default is as said exactly when no value that is given says otherwise
  have hgetD (given : Option Json) (value : Json) :
      some (given.getD value) = some value ↔ ∀ other, given = some other → other = value := by
    cases given <;> simp
  rw [← hgetD, ← hgetD, ← hclass, ← hstatus, ← hmade]
  exact ⟨fun h => ⟨h.classification, h.status⟩, fun h => ⟨h.1, h.2⟩⟩

/-- A forbidden request is logged under a class that its caller made up, as one that went well. -/
theorem exists_tagged_otherwise :
    let detail : Detail :=
      { fields := .ofList [("classification", .str "audit"), ("status", .int 200)] }
    let made := respond ⟨.memory, none⟩ ⟨.get, "/", none, none⟩ .forbidden detail {}
    made.1.status = .forbidden ∧
      ∃ record, made.2.offered.filter Site.IsClassified = [record] ∧
        record.field? "classification" = some (.str "audit") ∧
        record.field? "status" = some (.int 200) ∧ ¬ record.Tags .forbidden made.1 := by
  intro detail made
  let record := classifiedRecord ⟨.get, "/", none, none⟩ .forbidden detail
  have hclass : record.field? "classification" = some (.str "audit") :=
    field?_tag _ detail List.mem_cons_self
  have hstatus : record.field? "status" = some (.int 200) :=
    field?_tag _ detail (List.mem_cons_of_mem _ List.mem_cons_self)
  have hrecord : made.2.offered.filter Site.IsClassified = [record] :=
    Site.filter_isClassified_records ⟨.memory, none⟩ _ .forbidden detail
  refine ⟨rfl, record, hrecord, hclass, hstatus, fun h => ?_⟩
  have hname : "audit" = "forbidden" :=
    Json.str.inj (Option.some.inj (hclass.symm.trans h.classification))
  exact absurd hname (by decide)

end Responder

end ErrorPages
