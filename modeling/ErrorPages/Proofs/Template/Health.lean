import ErrorPages.Proofs.Counting
import ErrorPages.Proofs.Template.Rendering

/-! Templates that are in order, and templates that are not. Two renderings of one source copy the same
literals, write values in the same places and end alike, whatever the pages and the buffers hold, since a
value is written and never read. So the end of a rendering tells about the template alone, and the
responses of one class fall back on the built-in page always or never. -/

namespace ErrorPages

namespace Template

/-- The pieces of a source that are rendered, and the end that the rendering comes to, are settled before
there is a page. -/
theorem exists_pieces (template : String) (offset : Nat) (cs : List Char) :
    ∃ (pieces : Splitting) (outcome : RenderOutcome), outcome ≠ .panicked ∧
      ∀ (page : Page) (buffer : String), renderFrom template page buffer offset cs =
        ⟨buffer ++ String.ofList (pieces.output page), outcome⟩ := by
  obtain ⟨tags, rest, rfl, htags, hrest⟩ := exists_tags cs
  -- the tags are written in any case, and one more literal up to where the rendering ends
  have hpieces (page : Page) (buffer : String) (last : List Char) :
      buffer ++ String.ofList (tags.flatMap (Tag.output page)) ++ String.ofList last =
        buffer ++ String.ofList ((⟨tags, last⟩ : Splitting).output page) := by
    rw [Splitting.output, String.ofList_append, String.append_assoc]
  cases hrest with
  | last hl =>
    refine ⟨⟨tags, rest⟩, .finished, by simp, fun page buffer => ?_⟩
    rw [renderFrom_tags htags, renderFrom_last hl, hpieces]
  | @unterminated literal _ hl ht =>
    let opened := offset + Text.byteSize (tags.flatMap Tag.text) + Text.byteSize literal
    refine ⟨⟨tags, literal⟩, .failed (.unterminatedTag template opened), by simp,
      fun page buffer => ?_⟩
    rw [renderFrom_tags htags, renderFrom_unterminated hl ht, hpieces]
  | @unknown literal body _ hl hb hn =>
    let name := String.ofList (Text.trim body)
    refine ⟨⟨tags, literal⟩, .failed (.unknownPlaceholder template name), by simp,
      fun page buffer => ?_⟩
    rw [renderFrom_tags htags, renderFrom_closed hl hb, hn, hpieces]

end Template

namespace TemplateSet

theorem exists_pieces (set : TemplateSet) (name : String) :
    ∃ (pieces : Template.Splitting) (outcome : RenderOutcome), outcome ≠ .panicked ∧
      ∀ (page : Page) (buffer : String), set.renderInto name page buffer =
        ⟨buffer ++ String.ofList (pieces.output page), outcome⟩ := by
  cases hget : set.get? name with
  | none =>
    refine ⟨⟨[], []⟩, .failed (.missingTemplate name), by simp, fun page buffer => ?_⟩
    simp [renderInto, hget, Template.Splitting.output]
  | some source =>
    obtain ⟨pieces, outcome, hpanicked, hrender⟩ := Template.exists_pieces name 0 source.toList
    refine ⟨pieces, outcome, hpanicked, fun page buffer => ?_⟩
    simp only [renderInto, hget, Template.render, hrender]

/-- What a response that is rendered from these templates shows, and which fallback it is counted as, if
its class falls back. -/
theorem respond_of_outcome {set : TemplateSet} {c : Classification} {outcome : RenderOutcome}
    (h : ∀ page, (set.renderer c.template page).outcome = outcome) (sink : Sink) (context : Context)
    (detail : Detail) (journal : Journal) :
    let page := Responder.page context c detail
    let made := Responder.respond ⟨sink, some set.renderer⟩ context c detail journal
    made.1.body = .ofText (if outcome.fallback?.isSome then page.builtIn
      else (set.renderer c.template page).text) ∧
    ∀ reason, made.2.counters.count (.fallbacks reason) =
      journal.counters.count (.fallbacks reason) +
        if outcome.fallback? = some reason then 1 else 0 := by
  intro page made
  let use : Use := .respond (some set.renderer) ⟨context, c, detail⟩
  have hfallback : use.fallback? = outcome.fallback? :=
    congrArg RenderOutcome.fallback? (h page)
  constructor
  · have hanswer : some made.1 = use.answer := use.fst_run sink journal
    rw [← hfallback]
    exact congrArg Response.body (Option.some.inj hanswer)
  · intro reason
    have hcount := (use.adds_run sink journal).count (.fallbacks reason)
    rw [Use.count_counters, hfallback] at hcount
    have hmade : made.2 = (use.run sink journal).2 := rfl
    rw [hmade, hcount]
    simp

/-- All renderings of one template end alike: it renders for every page or for none, and then fails with
the same error. So the responses of a class are all rendered, or all fall back for the same reason. -/
theorem outcome_of_pages (set : TemplateSet) :
    (∀ (name : String) (p q : Page) (buffer buffer' : String),
      let first := set.renderInto name p buffer
      let second := set.renderInto name q buffer'
      first.outcome = second.outcome ∧ first.outcome ≠ .panicked) ∧
    (∀ c : Classification, ∃ fallback : Option Fallback,
      ∀ (sink : Sink) (context : Context) (detail : Detail) (journal : Journal),
        let page := Responder.page context c detail
        let made := Responder.respond ⟨sink, some set.renderer⟩ context c detail journal
        made.1.body =
          .ofText (if fallback.isSome then page.builtIn else (set.renderer c.template page).text) ∧
        ∀ reason, made.2.counters.count (.fallbacks reason) =
          journal.counters.count (.fallbacks reason) + if fallback = some reason then 1 else 0) := by
  constructor
  · intro name p q buffer buffer' first second
    obtain ⟨pieces, outcome, hpanicked, hrender⟩ := set.exists_pieces name
    have hfirst : first.outcome = outcome := congrArg Rendering.outcome (hrender p buffer)
    have hsecond : second.outcome = outcome := congrArg Rendering.outcome (hrender q buffer')
    rw [hfirst, hsecond]
    exact ⟨rfl, hpanicked⟩
  · intro c
    obtain ⟨pieces, outcome, -, hrender⟩ := set.exists_pieces c.template
    have houtcome : ∀ page, (set.renderer c.template page).outcome = outcome :=
      fun page => congrArg Rendering.outcome (hrender page "")
    exact ⟨outcome.fallback?, respond_of_outcome houtcome⟩

end TemplateSet

end ErrorPages
