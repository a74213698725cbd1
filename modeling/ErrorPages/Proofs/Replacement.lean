import ErrorPages.Proofs.FailureResponse

/-! When the answer to a request is replaced by a page, and what is left of it. A parked failure
decides first, then a bare answer with the status of a class; every other answer goes through as it
is, and leaves no trace in the journal. A page keeps the headers of the answer it replaces, name by
name and in their order, but for the two that describe the body. -/

namespace ErrorPages

theorem Classification.ofStatus?_eq_some_iff {status : Status} {c : Classification} :
    ofStatus? status = some c ↔ c.status = status := by
  constructor
  · intro h
    simpa using List.find?_some h
  · rintro rfl
    exact ofStatus?_status c

/-- The statuses of the classes, by their codes. -/
theorem Classification.exists_status_iff {status : Status} :
    (∃ c : Classification, c.status = status) ↔ status.code ∈ [401, 403, 404, 500] := by
  constructor
  · rintro ⟨c, rfl⟩
    cases c <;> decide
  · obtain ⟨code, three⟩ := status
    intro h
    simp only [List.mem_cons, List.not_mem_nil, or_false] at h
    rcases h with rfl | rfl | rfl | rfl
    · exact ⟨.unauthorized, rfl⟩
    · exact ⟨.forbidden, rfl⟩
    · exact ⟨.notFound, rfl⟩
    · exact ⟨.internalError, rfl⟩

theorem Headers.contains_eq_false_iff {headers : Headers} {name : HeaderName} :
    headers.contains name = false ↔ headers.getAll name = [] := by
  simp [contains, getAll, List.filter_eq_nil_iff]

namespace Responder

variable (responder : Responder) (request : Request) (answer : Response) (journal : Journal)

theorem getAll_carry (replaced page : Response) (name : HeaderName) :
    (carry replaced page).headers.getAll name =
      page.headers.getAll name ++
        if name ∈ bodyFields then [] else replaced.headers.getAll name := by
  rw [carry, Headers.getAll_appendAll, Headers.getAll_without]

theorem getAll_respond (context : Context) (c : Classification) (detail : Detail)
    (name : HeaderName) :
    (responder.respond context c detail journal).1.headers.getAll name =
      if name = .contentType then [.html] else [] := by
  rw [respond_eq]
  by_cases h : name = .contentType
  · subst h; rfl
  · simp [Headers.append, Headers.empty, Headers.getAll, h, Ne.symm h]

/-- `result` is `page` in the place of `answer`: the page with all headers of the answer but those
of its body, and with nothing parked on it. -/
structure Replaces (answer page result : Response) : Prop where
  status : result.status = page.status
  body : result.body = page.body
  unparked : result.failure = none
  contentType : result.headers.getAll .contentType = [.html]
  contentLength : result.headers.getAll .contentLength = []
  carried : ∀ name, name ≠ .contentType → name ≠ .contentLength →
    result.headers.getAll name = answer.headers.getAll name

theorem replaces_carry (context : Context) (c : Classification) (detail : Detail) :
    let page := (responder.respond context c detail journal).1
    Replaces answer page (carry answer page) := by
  intro page
  have hall (name : HeaderName) : (carry answer page).headers.getAll name =
      (if name = .contentType then [.html] else []) ++
        if name ∈ bodyFields then [] else answer.headers.getAll name := by
    rw [getAll_carry, getAll_respond]
  refine ⟨rfl, rfl, rfl, ?_, ?_, fun name ht hl => ?_⟩
  · exact hall .contentType
  · exact hall .contentLength
  · rw [hall, if_neg ht, if_neg (by simp [bodyFields, ht, hl]), List.nil_append]

theorem isBare_iff : isBare answer = true ↔
    answer.headers.getAll .contentType = [] ∧ answer.body.length? = some 0 := by
  rw [isBare, Bool.and_eq_true, Bool.not_eq_true', Headers.contains_eq_false_iff, beq_iff_eq]

theorem dress_of_failure {failure : Failure} (h : answer.failure = some failure) :
    responder.dress request answer journal =
      let made :=
        responder.respond (.ofRequest request) failure.classification failure.detail journal
      (carry answer made.1, made.2) := by
  unfold dress
  rw [h]

theorem dress_of_bare {c : Classification} (h : answer.failure = none) (hb : isBare answer = true)
    (hc : c.status = answer.status) :
    responder.dress request answer journal =
      let made := responder.respond (.ofRequest request) c {} journal
      (carry answer made.1, made.2) := by
  unfold dress
  rw [h, hb, if_pos rfl, Classification.ofStatus?_eq_some_iff.2 hc]

theorem dress_of_other (h : answer.failure = none)
    (ho : ¬ (isBare answer = true ∧ ∃ c : Classification, c.status = answer.status)) :
    responder.dress request answer journal = (answer, journal) := by
  unfold dress
  rw [h]
  cases hc : if isBare answer then Classification.ofStatus? answer.status else none with
  | none => rfl
  | some c =>
    obtain ⟨hb, hc⟩ := Option.ite_none_right_eq_some.1 hc
    exact absurd ⟨hb, c, Classification.ofStatus?_eq_some_iff.1 hc⟩ ho

/-- An answer with no content type, known to have no content, whose status is that of a class. -/
def IsBareError (answer : Response) : Prop :=
  answer.headers.getAll .contentType = [] ∧ answer.body.length? = some 0 ∧
    answer.status.code ∈ [401, 403, 404, 500]

/-- An answer is replaced by the page of the failure that it carries, or by that of its status if it is a
bare error; and otherwise it goes through as it is, and nothing is noted. -/
theorem dress_replaces_or_keeps :
    let context := Context.ofRequest request
    let dressed := responder.dress request answer journal
    (∃ failure, answer.failure = some failure ∧
      let page := responder.respond context failure.classification failure.detail journal
      dressed.1.status = failure.classification.status ∧
      Replaces answer page.1 dressed.1 ∧ dressed.2 = page.2) ∨
    (answer.failure = none ∧ IsBareError answer ∧ ∃ c : Classification, c.status = answer.status ∧
      let page := responder.respond context c {} journal
      dressed.1.status = answer.status ∧
      Replaces answer page.1 dressed.1 ∧ dressed.2 = page.2) ∨
    (answer.failure = none ∧ ¬ IsBareError answer ∧ dressed = (answer, journal)) := by
  intro context dressed
  cases hf : answer.failure with
  | some failure =>
    left
    have hd : dressed = _ := responder.dress_of_failure request answer journal hf
    rw [hd]
    exact ⟨failure, rfl, rfl, responder.replaces_carry answer journal _ _ _, rfl⟩
  | none =>
    right
    by_cases hbare : IsBareError answer
    · left
      obtain ⟨ht, hl, hs⟩ := hbare
      obtain ⟨c, hc⟩ := Classification.exists_status_iff.2 hs
      have hd : dressed = _ := responder.dress_of_bare request answer journal hf
        ((isBare_iff answer).2 ⟨ht, hl⟩) hc
      rw [hd]
      exact ⟨rfl, ⟨ht, hl, hs⟩, c, hc, hc, responder.replaces_carry answer journal _ _ _, rfl⟩
    · right
      refine ⟨rfl, hbare, responder.dress_of_other request answer journal hf ?_⟩
      rintro ⟨hb, hc⟩
      obtain ⟨ht, hl⟩ := (isBare_iff answer).1 hb
      exact hbare ⟨ht, hl, Classification.exists_status_iff.1 hc⟩

end Responder

end ErrorPages
