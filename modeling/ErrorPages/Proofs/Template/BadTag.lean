import ErrorPages.Proofs.Template.Rendering

/-! Where rendering stops, and with which error. A tag is bad when it is not closed or names no
placeholder. A template of a set fails exactly on the sources in which a bad tag opens behind a front
that renders by itself; it stops at the first such tag, the error is that of the tag, and the buffer
has grown by the rendering of the front. -/

namespace ErrorPages

namespace Template

/-- The tag whose opening braces stand at a byte position of its source and in front of these
characters is bad, and this is its error. -/
inductive BadTag (template : String) (offset : Nat) : List Char → RenderError → Prop
  | unterminated {tail : List Char} (h : NoPair '}' tail) :
      BadTag template offset tail (.unterminatedTag template offset)
  | unknown {body rest : List Char} (hb : NoPair '}' (body ++ ['}']))
      (hn : String.ofList (Text.trim body) ∉ ["title", "status", "message", "request_id"]) :
      BadTag template offset (body ++ '}' :: '}' :: rest)
        (.unknownPlaceholder template (String.ofList (Text.trim body)))

/-- At a byte position of the source a bad tag opens, and the front before it renders by itself. -/
structure BadAt (template source : String) (page : Page) (offset : Nat) (front : List Char)
    (e : RenderError) : Prop where
  taken : Text.takeBytes? offset source.toList = some front
  finished : (render template (String.ofList front) page "").outcome = .finished
  bad : ∃ tail, Text.dropBytes? offset source.toList = some ('{' :: '{' :: tail) ∧
    BadTag template offset tail e

/-- The first pair of braces stands no further behind than any other pair. -/
theorem byteSize_literal_le {literal tail last tail' : List Char}
    (hl : NoPair '{' (literal ++ ['{']))
    (heq : literal ++ '{' :: '{' :: tail = last ++ '{' :: '{' :: tail') :
    Text.byteSize literal ≤ Text.byteSize last := by
  rcases List.append_eq_append_iff.1 heq with ⟨more, rfl, -⟩ | ⟨more, rfl, hmore⟩
  · rw [Text.byteSize_append]
    exact Nat.le_add_right _ _
  · -- a longer literal would hold the other pair, or begin it
    rcases more with _ | ⟨a, _ | ⟨b, more⟩⟩
    · exact Nat.le_of_eq (congrArg Text.byteSize (List.append_nil last))
    · obtain ⟨rfl, -⟩ := List.cons.inj hmore
      rw [List.append_assoc] at hl
      exact absurd hl (not_noPair_append_pair '{' last [])
    · simp only [List.cons_append, List.cons.injEq] at hmore
      obtain ⟨rfl, rfl, -⟩ := hmore
      exact absurd hl.of_append (not_noPair_append_pair '{' last more)

variable {template source : String} {page : Page} {offset : Nat} {e : RenderError}

/-- A bad tag behind text without braces is what is left of a source, also when the brace before it
pairs with its own. -/
theorem BadTag.rest {last tail : List Char} (h : BadTag template offset tail e)
    (hlast : NoPair '{' last) : Rest (last ++ '{' :: '{' :: tail) := by
  by_cases hl : NoPair '{' (last ++ ['{'])
  · cases h with
    | unterminated ht => exact .unterminated hl ht
    | unknown hb hn => exact .unknown hl hb (Placeholder.ofName?_eq_none_iff.2 hn)
  · obtain ⟨literal, rfl⟩ := hlast.exists_concat hl
    have hcut : literal ++ ['{'] ++ '{' :: '{' :: tail = literal ++ '{' :: '{' :: '{' :: tail := by
      rw [List.append_assoc]
      rfl
    rw [hcut]
    cases h with
    | unterminated ht =>
      refine .unterminated hlast ?_
      rw [noPair_cons_iff]
      exact ⟨by simp, ht⟩
    | @unknown body rest hb hn =>
      have hbody : NoPair '}' ('{' :: body ++ ['}']) := by
        rw [List.cons_append, noPair_cons_iff]
        exact ⟨by simp, hb⟩
      -- no name begins with a brace
      have hname : Placeholder.ofName? (String.ofList (Text.trim ('{' :: body))) = none := by
        obtain ⟨more, hmore⟩ := Text.exists_trim_cons (show Text.isBlank '{' = false by decide) body
        rw [hmore, Placeholder.ofName?_eq_none_iff]
        simp [← String.toList_inj]
      exact .unknown hlast hbody hname

/-- A bad tag of a source stands behind proper tags and a literal, and no other tag stands behind
those. -/
theorem BadAt.exists_cut {front : List Char} (h : BadAt template source page offset front e) :
    ∃ (tags : List Tag) (last tail : List Char), (∀ tag ∈ tags, tag.Proper) ∧
      Rest (last ++ '{' :: '{' :: tail) ∧
      source.toList = tags.flatMap Tag.text ++ (last ++ '{' :: '{' :: tail) ∧
      offset = Text.byteSize (tags.flatMap Tag.text) + Text.byteSize last := by
  obtain ⟨tail, htail, hbad⟩ := h.bad
  obtain ⟨hsource, hoffset⟩ := Text.append_of_takeBytes? h.taken htail
  obtain ⟨s, hs, hfront⟩ := exists_splitting h.finished
  rw [String.toList_ofList] at hfront
  refine ⟨s.tags, s.last, tail, hs.tags, hbad.rest hs.last, ?_, ?_⟩
  · rw [hsource, ← hfront, Splitting.source, List.append_assoc]
  · rw [hoffset, ← hfront, Splitting.source, Text.byteSize_append]

theorem render_front {tags : List Tag} {literal : List Char} (htags : ∀ tag ∈ tags, tag.Proper)
    (hl : NoPair '{' literal) (buffer : String) :
    render template (String.ofList (tags.flatMap Tag.text ++ literal)) page buffer =
      ⟨buffer ++ String.ofList (tags.flatMap (Tag.output page) ++ literal), .finished⟩ := by
  have hs : (⟨tags, literal⟩ : Splitting).Proper := ⟨htags, hl⟩
  rw [render, String.toList_ofList]
  exact renderFrom_splitting hs

/-- A bad tag behind proper tags and a literal is one of the source. -/
theorem badAt_of_cut {tags : List Tag} {literal tail : List Char} (htags : ∀ tag ∈ tags, tag.Proper)
    (hl : NoPair '{' literal)
    (hsource : source.toList = tags.flatMap Tag.text ++ (literal ++ '{' :: '{' :: tail))
    (hbad : BadTag template (Text.byteSize (tags.flatMap Tag.text) + Text.byteSize literal) tail e) :
    BadAt template source page (Text.byteSize (tags.flatMap Tag.text) + Text.byteSize literal)
      (tags.flatMap Tag.text ++ literal) e := by
  have hoffset : Text.byteSize (tags.flatMap Tag.text) + Text.byteSize literal =
      Text.byteSize (tags.flatMap Tag.text ++ literal) :=
    (Text.byteSize_append _ _).symm
  have hcut : source.toList = tags.flatMap Tag.text ++ literal ++ '{' :: '{' :: tail := by
    rw [hsource, List.append_assoc]
  refine ⟨?_, ?_, tail, ?_, hbad⟩
  · rw [hoffset, hcut, Text.takeBytes?_append]
  · rw [render_front htags hl]
  · rw [hoffset, hcut, Text.dropBytes?_append]

/-- What is left of a source has no braces, or a bad tag opens in it at the first ones. -/
theorem Rest.exists_badTag {rest : List Char} (h : Rest rest) (template : String) (offset : Nat) :
    NoPair '{' rest ∨ ∃ (literal tail : List Char) (e : RenderError),
      NoPair '{' (literal ++ ['{']) ∧ rest = literal ++ '{' :: '{' :: tail ∧
      BadTag template (offset + Text.byteSize literal) tail e := by
  cases h with
  | last hl => exact .inl hl
  | unterminated hl ht => exact .inr ⟨_, _, _, hl, rfl, .unterminated ht⟩
  | unknown hl hb hn => exact .inr ⟨_, _, _, hl, rfl, .unknown hb (Placeholder.ofName?_eq_none_iff.1 hn)⟩

theorem renderFrom_badTag {literal tail : List Char} (hl : NoPair '{' (literal ++ ['{']))
    (h : BadTag template (offset + Text.byteSize literal) tail e) (buffer : String) :
    renderFrom template page buffer offset (literal ++ '{' :: '{' :: tail) =
      ⟨buffer ++ String.ofList literal, .failed e⟩ := by
  cases h with
  | unterminated ht => exact renderFrom_unterminated hl ht
  | unknown hb hn => rw [renderFrom_closed hl hb, Placeholder.ofName?_eq_none_iff.2 hn]

/-- A source without a bad tag renders; with one, rendering stops at the first. -/
theorem render_first_bad_tag (template source : String) (page : Page) (buffer : String) :
    let rendering := render template source page buffer
    (rendering.outcome = .finished ∧ ∀ offset front e, ¬ BadAt template source page offset front e) ∨
    ∃ offset front e, BadAt template source page offset front e ∧
      (∀ offset' front' e', BadAt template source page offset' front' e' → offset ≤ offset') ∧
      rendering.outcome = .failed e ∧
      rendering.text = buffer ++ (render template (String.ofList front) page "").text := by
  intro rendering
  obtain ⟨tags, rest, hsource, htags, hrest⟩ := exists_tags source.toList
  have hrendering : rendering = renderFrom template page
      (buffer ++ String.ofList (tags.flatMap (Tag.output page)))
      (Text.byteSize (tags.flatMap Tag.text)) rest := by
    simp only [rendering, render, hsource, renderFrom_tags htags, Nat.zero_add]
  -- all cuts at a bad tag have these tags in front
  have hbehind : ∀ offset' front' e', BadAt template source page offset' front' e' →
      ∃ last tail, rest = last ++ '{' :: '{' :: tail ∧
        offset' = Text.byteSize (tags.flatMap Tag.text) + Text.byteSize last := by
    intro offset' front' e' h'
    obtain ⟨tags', last, tail, htags', hrest', hsource', hoffset'⟩ := h'.exists_cut
    obtain ⟨rfl, rfl⟩ := tags_rest_inj htags htags' hrest hrest' (hsource.symm.trans hsource')
    exact ⟨last, tail, rfl, hoffset'⟩
  obtain hl | ⟨literal, tail, e, hl, rfl, hbad⟩ :=
    hrest.exists_badTag template (Text.byteSize (tags.flatMap Tag.text))
  · refine .inl ⟨?_, ?_⟩
    · rw [hrendering, renderFrom_last hl]
    · intro offset front e h
      obtain ⟨last, tail, rfl, -⟩ := hbehind offset front e h
      exact not_noPair_append_pair '{' last tail hl
  · rw [renderFrom_badTag hl hbad] at hrendering
    refine .inr ⟨_, _, e, badAt_of_cut htags hl.of_append hsource hbad, ?_, ?_, ?_⟩
    · intro offset' front' e' h'
      obtain ⟨last, tail', hcut, rfl⟩ := hbehind offset' front' e' h'
      exact Nat.add_le_add_left (byteSize_literal_le hl hcut) _
    · rw [hrendering]
    · rw [hrendering, render_front htags hl.of_append, String.empty_append, String.ofList_append,
        String.append_assoc]

example : render "page" "é{{title}} \x7b\x7b user" ⟨"<a>", 500, none, none⟩ "" =
    ⟨"é&lt;a&gt; ", .failed (.unterminatedTag "page" 12)⟩ := by decide +kernel

end Template

namespace TemplateSet

/-- Rendering a template of a set fails in three ways: there is no such template, or the first bad tag
of its source is not closed, or that tag names no placeholder. -/
theorem renderInto_first_bad_tag (set : TemplateSet) (name : String) (page : Page)
    (buffer : String) :
    let rendering := set.renderInto name page buffer
    rendering.outcome ≠ .failed .write ∧
    match set.get? name with
    | none => rendering = ⟨buffer, .failed (.missingTemplate name)⟩
    | some source =>
      (rendering.outcome = .finished ∧
        ∀ offset front e, ¬ Template.BadAt name source page offset front e) ∨
      ∃ offset front e, Template.BadAt name source page offset front e ∧
        (∀ offset' front' e', Template.BadAt name source page offset' front' e' →
          offset ≤ offset') ∧
        rendering.outcome = .failed e ∧
        rendering.text = buffer ++ (Template.render name (String.ofList front) page "").text := by
  intro rendering
  cases hget : set.get? name with
  | none =>
    have hrendering : rendering = ⟨buffer, .failed (.missingTemplate name)⟩ := by
      simp only [rendering, renderInto, hget]
    rw [hrendering]
    exact ⟨by simp, rfl⟩
  | some source =>
    have hrendering : rendering = Template.render name source page buffer := by
      simp only [rendering, renderInto, hget]
    rw [hrendering]
    have hfirst := Template.render_first_bad_tag name source page buffer
    refine ⟨?_, hfirst⟩
    intro hwrite
    obtain ⟨hfinished, -⟩ | ⟨offset, front, e, hbad, -, hfailed, -⟩ := hfirst
    · rw [hfinished] at hwrite
      cases hwrite
    · obtain ⟨tail, -, htail⟩ := hbad.bad
      rw [hwrite, RenderOutcome.failed.injEq] at hfailed
      subst hfailed
      cases htail

end TemplateSet

end ErrorPages
