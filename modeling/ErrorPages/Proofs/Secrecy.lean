import ErrorPages.Proofs.Replacement

/-! What a client can learn from a failure. Two failures of one class with one public message, on
requests of one id, get the same response: the causes, the fields for the log, the other facts of
the requests, the sinks, and the journals with all that went before may differ. The renderer is the
same on both sides and has nothing to go by but its arguments. -/

namespace ErrorPages

/-- The same values for each name, in the same order. -/
def Headers.Same (a b : Headers) : Prop := ∀ name, a.getAll name = b.getAll name

/-- The same to a client. -/
structure Response.Same (a b : Response) : Prop where
  status : a.status = b.status
  headers : a.headers.Same b.headers
  body : a.body = b.body

namespace Responder

variable (renderer : Option Renderer) (sink₁ sink₂ : Sink) (journal₁ journal₂ : Journal)

theorem page_eq {context₁ context₂ : Context} {detail₁ detail₂ : Detail} (c : Classification)
    (hid : context₁.requestId = context₂.requestId)
    (hmessage : detail₁.publicMessage = detail₂.publicMessage) :
    page context₁ c detail₁ = page context₂ c detail₂ := by
  rw [page, page, hid, hmessage]

/-- The response is made of the class, the page and the renderer, and of nothing else. -/
theorem respond_fst (responder : Responder) (context : Context) (c : Classification)
    (detail : Detail) (journal : Journal) :
    (responder.respond context c detail journal).1 =
      { status := c.status
        headers := Headers.empty.append .contentType .html
        body := .ofText (shown (page context c detail)
          (responder.rendering? c (page context c detail))) } := by
  rw [respond_eq, ← body_fst responder context]

theorem respond_fst_eq (context₁ context₂ : Context) (detail₁ detail₂ : Detail)
    (c : Classification) (hid : context₁.requestId = context₂.requestId)
    (hmessage : detail₁.publicMessage = detail₂.publicMessage) :
    (respond ⟨sink₁, renderer⟩ context₁ c detail₁ journal₁).1 =
      (respond ⟨sink₂, renderer⟩ context₂ c detail₂ journal₂).1 := by
  rw [respond_fst, respond_fst, page_eq c hid hmessage]
  rfl

theorem same_carry {answer₁ answer₂ : Response} (page : Response)
    (h : answer₁.headers.Same answer₂.headers) :
    (carry answer₁ page).Same (carry answer₂ page) := by
  refine ⟨rfl, fun name => ?_, rfl⟩
  rw [getAll_carry, getAll_carry, h name]

/-- Two failures that agree in what is public are answered alike, by the responder itself and in the
place of the answers they were parked on. -/
theorem response_of_public (renderer : Option Renderer) (sink₁ sink₂ : Sink)
    (journal₁ journal₂ : Journal) :
    (∀ (context₁ context₂ : Context) (c : Classification) (detail₁ detail₂ : Detail),
      context₁.requestId = context₂.requestId → detail₁.publicMessage = detail₂.publicMessage →
      (respond ⟨sink₁, renderer⟩ context₁ c detail₁ journal₁).1 =
        (respond ⟨sink₂, renderer⟩ context₂ c detail₂ journal₂).1) ∧
    (∀ (request₁ request₂ : Request) (answer₁ answer₂ : Response) (failure₁ failure₂ : Failure),
      (Context.ofRequest request₁).requestId = (Context.ofRequest request₂).requestId →
      answer₁.failure = some failure₁ → answer₂.failure = some failure₂ →
      failure₁.classification = failure₂.classification →
      failure₁.publicMessage = failure₂.publicMessage →
      answer₁.headers.Same answer₂.headers →
      (dress ⟨sink₁, renderer⟩ request₁ answer₁ journal₁).1.Same
        (dress ⟨sink₂, renderer⟩ request₂ answer₂ journal₂).1) := by
  constructor
  · intro context₁ context₂ c detail₁ detail₂ hid hmessage
    exact respond_fst_eq renderer sink₁ sink₂ journal₁ journal₂ _ _ _ _ c hid hmessage
  · intro request₁ request₂ answer₁ answer₂ failure₁ failure₂ hid h₁ h₂ hclass hmessage hheaders
    rw [dress_of_failure _ _ _ _ h₁, dress_of_failure _ _ _ _ h₂, hclass]
    have hpage := respond_fst_eq renderer sink₁ sink₂ journal₁ journal₂ (.ofRequest request₁)
      (.ofRequest request₂) failure₁.detail failure₂.detail failure₂.classification hid hmessage
    dsimp only
    rw [hpage]
    exact same_carry _ hheaders

/-- A secret in the cause, another path and method, and a sink that panics. -/
theorem response_of_public_secret :
    let panicking : Sink := ⟨fun _ _ => .panic⟩
    (respond ⟨.memory, none⟩ ⟨.get, "/a", none, some "7"⟩ .internalError
        { cause := some (.root "password") } {}).1 =
      (respond ⟨panicking, none⟩ ⟨.head, "/b", none, some "7"⟩ .internalError {} {}).1 ∧
    (dress ⟨.memory, none⟩ ⟨.get, ⟨"/a", none⟩, .empty, none⟩
        (.ofFailure (.internalText "password")) {}).1.Same
      (dress ⟨panicking, none⟩ ⟨.head, ⟨"/b", some "key"⟩, .empty, none⟩
        (.ofFailure (.internalText "token")) {}).1 := by
  intro panicking
  obtain ⟨hrespond, hdress⟩ := response_of_public none .memory panicking {} {}
  exact ⟨hrespond _ _ _ _ _ rfl rfl, hdress _ _ _ _ _ _ rfl rfl rfl rfl rfl fun _ => rfl⟩

end Responder

end ErrorPages
