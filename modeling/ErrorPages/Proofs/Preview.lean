import ErrorPages.Preview
import ErrorPages.Proofs.Secrecy
import ErrorPages.Proofs.Utf8

/-! What a preview is worth. A preview is a response to a request of its own, made by a responder of its
own and then printed. From the same settings a server gets a responder with the same templates, whatever
its sink, so the text that is printed is the one that a client of the server is sent for a failure of that
class with that message, when its request has the id of a preview. -/

namespace ErrorPages

/-- The settings decide the renderer, and if there is a responder at all; its sink is the one given. -/
theorem Responder.ofConfig_sink {files : Files} {config : Config} {sink : Sink}
    {built : Responder × Event} (h : ofConfig files config sink = .ok built) (sink' : Sink) :
    ofConfig files config sink' = .ok (⟨sink', built.1.renderer⟩, built.2) := by
  unfold ofConfig at h ⊢
  split at h
  · cases h
    rfl
  · split at h
    · cases h
    · cases h
      rfl

namespace Preview

/-- The command has shown the response: its body and a line break, and its status on the first line of
the other stream. -/
structure Shows (run : CommandRun) (response : Response) : Prop where
  exit : run.exit = 0
  output : run.output.toUTF8 = response.body.bytes ++ "\n".toUTF8
  errors : ∃ log, run.errors = "Status: " ++ Text.decimal response.status.code ++ " " ++
    response.status.phrase ++ "\n" ++ log

theorem shows_present (responder : Responder) (subject : Subject) :
    Shows (present responder subject) (responder.respond (context subject.path)
      subject.classification { publicMessage := subject.message } {}).1 := by
  let response := (responder.respond (context subject.path) subject.classification
    { publicMessage := subject.message } {}).1
  have houtput : (present responder subject).output =
      String.ofList (Text.decodeLossy response.body.bytes.data.toList) ++ "\n" := rfl
  obtain ⟨text, htext⟩ : ∃ text, response.body = .ofText text :=
    ⟨_, congrArg Response.body (responder.respond_fst _ _ _ _)⟩
  refine ⟨rfl, ?_, _, rfl⟩
  -- the body is a text, and the command prints what it reads back of it
  rw [houtput, htext, Body.ofText, Text.decodeLossy_toUTF8, String.ofList_toList]
  exact String.toByteArray_append

/-- A failure is answered in the place of any response as it is by the responder of a preview, when the
public part of it is the subject of the preview and the request has the id of one. -/
theorem dress_of_subject (renderer : Option Renderer) (sink sink' : Sink) (subject : Subject)
    {request : Request} {handled : Response} {failure : Failure} (journal : Journal)
    (hid : request.headers.get? .requestId = some (.ofText "preview"))
    (hparked : handled.failure = some failure)
    (hclass : failure.classification = subject.classification)
    (hmessage : failure.publicMessage = subject.message) :
    let made := (Responder.respond ⟨sink, renderer⟩ (context subject.path) subject.classification
      { publicMessage := subject.message } {}).1
    let served := (Responder.dress ⟨sink', renderer⟩ request handled journal).1
    served.status = made.status ∧ served.body = made.body := by
  intro made served
  have hcontext : (context subject.path).requestId = (Context.ofRequest request).requestId := by
    simp only [Context.ofRequest, hid]
    rfl
  have hserved : served = Responder.carry handled made := by
    have hmade := Responder.respond_fst_eq renderer sink sink' {} journal (context subject.path)
      (.ofRequest request) { publicMessage := subject.message } failure.detail
      subject.classification hcontext hmessage.symm
    simp only [served, made, Responder.dress_of_failure _ _ _ _ hparked, hclass, hmade]
  rw [hserved]
  exact ⟨rfl, rfl⟩

/-- If the responder of a preview can be built, then so can that of a server with the same settings, and
the preview shows what this one sends for the failure that it is about: whatever the request has but the
id of a preview, and whatever the failure has but its class and its message. -/
theorem shows_served {files : Files} {subject : Subject} {config : Config}
    {built : Responder × Event} (hconfig : Config.loadGiven files subject.config = .ok config)
    (hbuilt : Responder.ofConfig files (subject.settings config) .memory = .ok built) (sink : Sink) :
    ∃ responder event,
      Responder.ofConfig files (subject.settings config) sink = .ok (responder, event) ∧
      (∀ args, subject? args = .ok subject → run files args = answer files subject) ∧
      ∀ (request : Request) (handled : Response) (failure : Failure) (journal : Journal),
        request.headers.get? .requestId = some (.ofText "preview") →
        handled.failure = some failure → failure.classification = subject.classification →
        failure.publicMessage = subject.message →
        Shows (answer files subject) (responder.dress request handled journal).1 := by
  refine ⟨_, _, Responder.ofConfig_sink hbuilt sink, fun args hargs => ?_, ?_⟩
  · rw [run, hargs]
  · intro request handled failure journal hid hparked hclass hmessage
    have hanswer : answer files subject = present built.1 subject := by
      simp only [answer, hconfig, hbuilt]
    obtain ⟨hstatus, hbody⟩ := dress_of_subject built.1.renderer built.1.sink sink subject journal
      hid hparked hclass hmessage
    have hshows := shows_present built.1 subject
    rw [hanswer]
    exact ⟨hshows.exit, hbody ▸ hshows.output, hstatus ▸ hshows.errors⟩

/-- A preview with a template, and a server that answers a failure of that class to another request, with
a cause and a cookie. -/
theorem shows_served_not_found :
    let source := "<p>{{ message }}</p>"
    let files : Files := fun _ =>
      .ok (.directory [⟨"not_found.html".toUTF8.data.toList, some source.toUTF8⟩])
    let subject : Subject := ⟨.notFound, none, some "pages", some "<gone>", "/preview", false⟩
    let request : Request :=
      ⟨.head, ⟨"/a", none⟩, Headers.empty.append .requestId (.ofText "preview"), none⟩
    let handled : Response :=
      { Response.ofFailure ⟨.notFound, some "<gone>", some (.root "no row")⟩ with
        headers := Headers.empty.append ⟨"set-cookie"⟩ (.ofText "a=1") }
    ∃ responder event, ∃ set : TemplateSet,
      Responder.ofConfig files (subject.settings {}) (.forward .shared) = .ok (responder, event) ∧
      responder.renderer = some set.renderer ∧ set.get? "not_found" = some source ∧
      Shows (answer files subject) (responder.dress request handled {}).1 := by
  intro source files subject request handled
  have hread : (TemplateSet.load files "pages" "html").toOption.bind (Named.get? · "not_found") =
      some source := by decide +kernel
  obtain ⟨set, hset, hsource⟩ := Option.bind_eq_some_iff.1 hread
  have hload : TemplateSet.load files "pages" "html" = .ok set := by
    cases hloaded : TemplateSet.load files "pages" "html" with
    | error fault => rw [hloaded] at hset; cases hset
    | ok loaded => rw [hloaded] at hset; cases hset; rfl
  have hbuilt : Responder.ofConfig files (subject.settings {}) .memory =
      .ok (⟨.memory, some set.renderer⟩, TemplateSet.loadedEvent "pages" set) := by
    have hdirectory : (subject.settings {}).templates = ⟨some "pages", "html"⟩ := rfl
    simp only [Responder.ofConfig, hdirectory, hload]
  obtain ⟨responder, event, hserver, -, hshows⟩ := shows_served rfl hbuilt (.forward .shared)
  have hrenderer : responder.renderer = some set.renderer := by
    rw [Responder.ofConfig_sink hbuilt (.forward .shared)] at hserver
    cases hserver
    rfl
  exact ⟨responder, event, set, hserver, hrenderer, hsource,
    hshows request handled _ {} rfl rfl rfl rfl⟩

end Preview

end ErrorPages
