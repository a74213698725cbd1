import ErrorPages.Proofs.Replacement

/-! What dressing leaves behind. A dressed answer is settled: no failure is parked on it and it is no
bare error, so that dressing it once more, by whatever responder, changes nothing. Of the fields that
describe a body two are dropped together with the body; the others are carried to the page like any
field, and there they describe a body that is gone. -/

namespace ErrorPages

/-- What answers a request, and what it notes in the journal on the way. -/
abbrev Service := Request → Journal → Response × Journal

namespace HeaderName

def contentEncoding : HeaderName := ⟨"content-encoding"⟩
def contentLanguage : HeaderName := ⟨"content-language"⟩
def contentRange : HeaderName := ⟨"content-range"⟩
def transferEncoding : HeaderName := ⟨"transfer-encoding"⟩

/-- The names of the fields that describe a body. -/
def describing : List HeaderName :=
  [contentType, contentLength, contentEncoding, contentLanguage, contentRange, transferEncoding]

end HeaderName

namespace Responder

/-- The service whose answers are those of another one, dressed. -/
def around (responder : Responder) (service : Service) : Service := fun request journal =>
  let (answer, journal) := service request journal
  responder.dress request answer journal

/-- Nothing is parked on the answer and it is no bare error, so it goes through as it is. -/
structure IsSettled (answer : Response) : Prop where
  unparked : answer.failure = none
  notBare : ¬ IsBareError answer

variable (responder : Responder) (request : Request) (answer : Response) (journal : Journal)

theorem isBareError_iff : IsBareError answer ↔
    isBare answer = true ∧ ∃ c : Classification, c.status = answer.status := by
  rw [isBare_iff, Classification.exists_status_iff, and_assoc]
  rfl

theorem dress_of_isSettled {answer : Response} (h : IsSettled answer) :
    responder.dress request answer journal = (answer, journal) :=
  responder.dress_of_other request answer journal h.unparked
    fun hbare => h.notBare ((isBareError_iff answer).2 hbare)

/-- An answer that is not settled is replaced by the page of some class, whatever the request. -/
theorem exists_dress_eq {answer : Response} (h : ¬ IsSettled answer) :
    ∃ c detail, detail.fields = .empty ∧ ∀ responder request journal,
      dress responder request answer journal =
        let made := respond responder (.ofRequest request) c detail journal
        (carry answer made.1, made.2) := by
  cases hfailure : answer.failure with
  | some failure =>
    exact ⟨_, _, rfl, fun responder request journal =>
      responder.dress_of_failure request answer journal hfailure⟩
  | none =>
    by_cases hbare : IsBareError answer
    · obtain ⟨hbare, c, hc⟩ := (isBareError_iff answer).1 hbare
      exact ⟨c, {}, rfl, fun responder request journal =>
        responder.dress_of_bare request answer journal hfailure hbare hc⟩
    · exact absurd ⟨hfailure, hbare⟩ h

theorem isSettled_dress : IsSettled (responder.dress request answer journal).1 := by
  by_cases h : IsSettled answer
  · rw [dress_of_isSettled responder request journal h]
    exact h
  · obtain ⟨c, detail, -, hdress⟩ := exists_dress_eq h
    have hpage := responder.replaces_carry answer journal (.ofRequest request) c detail
    rw [hdress]
    refine ⟨hpage.unparked, fun hbare => ?_⟩
    -- a page has a content type, even when there is no text on it
    rw [IsBareError, hpage.contentType] at hbare
    exact List.cons_ne_nil _ _ hbare.1

/-- Wrapping a wrapped service changes neither its responses nor what is noted in the journal, because
no response of it carries a failure or is a bare error. -/
theorem around_around (outer responder : Responder) (service : Service) :
    outer.around (responder.around service) = responder.around service ∧
    ∀ request journal,
      let dressed := (responder.around service request journal).1
      dressed.failure = none ∧ ¬ IsBareError dressed := by
  have hsettled : ∀ request journal, IsSettled (responder.around service request journal).1 :=
    fun request journal => responder.isSettled_dress request _ _
  refine ⟨?_, fun request journal => ?_⟩
  · funext request journal
    exact outer.dress_of_isSettled request _ (hsettled request journal)
  · exact ⟨(hsettled request journal).unparked, (hsettled request journal).notBare⟩

/-- The values that a page has under a name, in the place of the answer it stands for. -/
theorem getAll_dress {answer : Response} (h : ¬ IsSettled answer) (name : HeaderName) :
    (responder.dress request answer journal).1.headers.getAll name =
      if name = .contentType then [.html]
      else if name ∈ bodyFields then [] else answer.headers.getAll name := by
  obtain ⟨c, detail, -, hdress⟩ := exists_dress_eq h
  rw [hdress]
  refine (getAll_carry answer _ name).trans ?_
  rw [getAll_respond]
  by_cases hname : name = .contentType
  · subst hname
    rfl
  · rw [if_neg hname, if_neg hname, List.nil_append]

/-- Of the fields that describe a body the response has the content type of a page, and no other. -/
def DescribesPage (response : Response) : Prop :=
  ∀ name ∈ HeaderName.describing,
    response.headers.getAll name = if name = .contentType then [.html] else []

/-- The page in the place of an answer has its own content type and no content length. The other fields
that describe a body are those of the answer, so the page describes itself alone exactly when the answer
has none of them. -/
theorem describesPage_dress_iff {answer : Response} (h : ¬ IsSettled answer) :
    let page := (responder.dress request answer journal).1
    page.headers.getAll .contentType = [.html] ∧ page.headers.getAll .contentLength = [] ∧
    (∀ name ∈ HeaderName.describing, name ∉ bodyFields →
      page.headers.getAll name = answer.headers.getAll name) ∧
    (DescribesPage page ↔
      ∀ name ∈ HeaderName.describing, name ∉ bodyFields → answer.headers.getAll name = []) := by
  intro page
  have hall : ∀ name, page.headers.getAll name = _ := responder.getAll_dress request journal h
  refine ⟨hall .contentType, hall .contentLength, fun name _ hname => ?_, ?_⟩
  · have htype : name ≠ .contentType := fun htype => hname (htype ▸ List.mem_cons_self)
    rw [hall, if_neg htype, if_neg hname]
  · refine forall₂_congr fun name _ => ?_
    rw [hall]
    by_cases htype : name = .contentType
    · subst htype
      exact iff_of_true rfl fun hname => absurd List.mem_cons_self hname
    · rw [if_neg htype, if_neg htype]
      exact ite_eq_left_iff

/-- A failure that sets a cookie and gives the length of its body. -/
theorem describesPage_dress_iff_cookie :
    let answer : Response :=
      { Response.ofFailure .unauthorized with
        headers := (Headers.empty.append ⟨"set-cookie"⟩ (.ofText "session=")).append .contentLength
          (.ofText "12") }
    ¬ IsSettled answer ∧
    DescribesPage (dress ⟨.memory, none⟩ ⟨.get, ⟨"/logout", none⟩, .empty, none⟩ answer {}).1 := by
  intro answer
  have h : ¬ IsSettled answer := fun hsettled => nomatch hsettled.unparked
  obtain ⟨-, -, -, hiff⟩ :=
    describesPage_dress_iff ⟨.memory, none⟩ ⟨.get, ⟨"/logout", none⟩, .empty, none⟩ {} h
  exact ⟨h, hiff.2 (by decide)⟩

/-- A page in plain text that says that it is compressed, as the answer was that it stands for. -/
theorem exists_page_described_as_gzip :
    let answer : Response :=
      { Response.ofFailure .forbidden with
        headers := Headers.empty.append .contentEncoding (.ofText "gzip") }
    let page := (dress ⟨.memory, none⟩ ⟨.get, ⟨"/", none⟩, .empty, none⟩ answer {}).1
    ¬ IsSettled answer ∧ page.headers.getAll .contentEncoding = [.ofText "gzip"] ∧
      ¬ DescribesPage page := by
  intro answer page
  have hencoding : page.headers.getAll .contentEncoding = [.ofText "gzip"] := by decide
  refine ⟨fun hsettled => (nomatch hsettled.unparked), hencoding, fun h => ?_⟩
  exact absurd ((h .contentEncoding (by decide)).symm.trans hencoding) (by decide)

end Responder

end ErrorPages
