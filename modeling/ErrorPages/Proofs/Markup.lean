import ErrorPages.Proofs.Template.Rendering

/-! Pages that keep their markup. Elements and attribute values are opened and closed by four characters,
the marks. A value that is written on a page brings none, so the marks of a rendered template are those
of its literals, and the marks of the built-in page tell no more than which of its lines are there. -/

namespace ErrorPages

namespace Markup

def isMark (c : Char) : Bool := ['<', '>', '"', '\''].contains c

/-- The marks of a text, in their order. -/
def marks (s : String) : List Char := s.toList.filter isMark

@[simp] theorem marks_append (s t : String) : marks (s ++ t) = marks s ++ marks t := by
  simp [marks]

theorem marks_escapeChar (c : Char) : (escapeChar c).filter isMark = [] := by
  unfold escapeChar
  split
  case h_6 _ hlt hgt hquote hapostrophe =>
    have hc : isMark c = false := by simp_all [isMark]
    simp [hc]
  all_goals decide

@[simp] theorem marks_escape (s : String) : marks (escape s) = [] := by
  simp [marks, escapeChars, List.filter_flatMap, marks_escapeChar]

theorem isMark_of_isDigit {c : Char} (h : c.isDigit = true) : isMark c = false := by
  refine Bool.eq_false_iff.2 fun hmark => ?_
  simp only [isMark, List.contains_eq_mem, decide_eq_true_eq, List.mem_cons, List.not_mem_nil,
    or_false] at hmark
  rcases hmark with rfl | rfl | rfl | rfl <;> exact absurd h (by decide)

@[simp] theorem marks_decimal (n : Nat) : marks (Text.decimal n) = [] := by
  rw [marks, Text.decimal, String.toList_ofList, List.filter_eq_nil_iff]
  intro c hc
  rw [isMark_of_isDigit (Nat.isDigit_of_mem_toDigits (by decide) (by decide) hc)]
  decide

@[simp] theorem marks_value (page : Page) (p : Placeholder) : marks (p.value page) = [] := by
  cases p <;> simp [Placeholder.value]

end Markup

namespace Template.Splitting

/-- The text outside the tags. -/
def literal (s : Splitting) : List Char := s.tags.flatMap Tag.literal ++ s.last

theorem marks_output (page : Page) (s : Splitting) :
    Markup.marks (String.ofList (s.output page)) = s.literal.filter Markup.isMark := by
  have htag (tag : Tag) : (tag.output page).filter Markup.isMark =
      tag.literal.filter Markup.isMark := by
    rw [Tag.output, List.filter_append, ← Markup.marks, Markup.marks_value, List.append_nil]
  simp [Markup.marks, output, literal, List.filter_flatMap, htag]

end Template.Splitting

namespace Page

theorem marks_heading (page : Page) : Markup.marks page.heading = [] := by
  rw [heading, Markup.marks_append, Markup.marks_append, Markup.marks_decimal, Markup.marks_escape]
  rfl

theorem marks_messageLine (message : String) :
    Markup.marks (messageLine message) = Markup.marks "<p>" ++ Markup.marks "</p>\n" := by
  unfold messageLine
  simp only [Markup.marks_append, Markup.marks_escape, List.append_nil]

theorem marks_requestIdLine (id : String) :
    Markup.marks (requestIdLine id) =
      Markup.marks "<p><small>Request ID: " ++ Markup.marks "</small></p>\n" := by
  unfold requestIdLine
  simp only [Markup.marks_append, Markup.marks_escape, List.append_nil]

/-- The marks of the built-in page, by the lines that it has. -/
theorem marks_builtIn_eq {p q : Page} (hmessage : p.message.isSome = q.message.isSome)
    (hid : p.requestId.isSome = q.requestId.isSome) :
    Markup.marks p.builtIn = Markup.marks q.builtIn := by
  have hline {a b : Option String} {line : String → String} {shape : List Char}
      (hshape : ∀ s, Markup.marks (line s) = shape) (h : a.isSome = b.isSome) :
      Markup.marks (a.elim "" line) = Markup.marks (b.elim "" line) := by
    cases a <;> cases b <;> simp_all
  unfold builtIn
  simp only [Markup.marks_append, marks_heading, hline marks_messageLine hmessage,
    hline marks_requestIdLine hid]

end Page

namespace TemplateSet

theorem renderInto_splitting {set : TemplateSet} {name source : String} {s : Template.Splitting}
    (hsource : set.get? name = some source) (hs : s.Proper) (hcut : s.source = source.toList)
    (page : Page) (buffer : String) :
    set.renderInto name page buffer = ⟨buffer ++ String.ofList (s.output page), .finished⟩ := by
  simp only [renderInto, hsource, Template.render]
  rw [← hcut, Template.renderFrom_splitting hs]

theorem splitting_of_finished {set : TemplateSet} {name source buffer : String} {page : Page}
    (hsource : set.get? name = some source)
    (h : (set.renderInto name page buffer).outcome = .finished) :
    ∃ s : Template.Splitting, s.Proper ∧ s.source = source.toList := by
  simp only [renderInto, hsource, Template.render] at h
  exact Template.exists_splitting h

/-- No value of a page adds, takes away or moves a mark: a rendered template has the marks of its
literals, behind those already in the buffer, and built-in pages with the same lines have the same
marks. -/
theorem marks_of_pages :
    (∀ (set : TemplateSet) (name source buffer : String) (p q : Page),
      set.get? name = some source → (set.renderInto name p buffer).outcome = .finished →
      (set.renderInto name q buffer).outcome = .finished ∧
      Markup.marks (set.renderInto name p buffer).text =
        Markup.marks (set.renderInto name q buffer).text ∧
      ∃ s : Template.Splitting, s.Proper ∧ s.source = source.toList ∧
        Markup.marks (set.renderInto name p buffer).text =
          Markup.marks buffer ++ s.literal.filter Markup.isMark) ∧
    (∀ p q : Page, p.message.isSome = q.message.isSome → p.requestId.isSome = q.requestId.isSome →
      Markup.marks p.builtIn = Markup.marks q.builtIn) := by
  constructor
  · intro set name source buffer p q hsource hfinished
    obtain ⟨s, hs, hcut⟩ := splitting_of_finished hsource hfinished
    simp only [renderInto_splitting hsource hs hcut, Markup.marks_append,
      Template.Splitting.marks_output]
    exact ⟨trivial, trivial, s, hs, hcut, rfl⟩
  · intro p q hmessage hid
    exact Page.marks_builtIn_eq hmessage hid

/-- A title that would close an attribute and open an element, and a message in markup. -/
theorem marks_of_pages_crafted :
    let set : TemplateSet := Named.empty.insert "page" "<b id=\"{{ title }}\">{{message}}</b>"
    let p : Page := ⟨"\"><script>", 403, some "<i>", none⟩
    let q : Page := ⟨"Forbidden", 403, some "", none⟩
    (set.renderInto "page" p "").outcome = .finished ∧
    Markup.marks (set.renderInto "page" p "").text =
      Markup.marks (set.renderInto "page" q "").text ∧
    Markup.marks p.builtIn = Markup.marks q.builtIn := by
  intro set p q
  have hget : set.get? "page" = some "<b id=\"{{ title }}\">{{message}}</b>" := by
    rw [Named.get?_insert, if_pos rfl]
  let s : Template.Splitting := ⟨[⟨"<b id=\"".toList, " title ".toList, .title⟩,
    ⟨"\">".toList, "message".toList, .message⟩], "</b>".toList⟩
  have hs : s.Proper := by
    refine ⟨?_, by decide⟩
    simp only [s, List.forall_mem_cons]
    exact ⟨⟨by decide, by decide, by decide⟩, ⟨by decide, by decide, by decide⟩, by simp⟩
  have hfinished : (set.renderInto "page" p "").outcome = .finished := by
    rw [renderInto_splitting hget hs (by decide)]
  obtain ⟨htemplates, hbuiltIn⟩ := marks_of_pages
  exact ⟨hfinished, (htemplates set "page" _ "" p q hget hfinished).2.1, hbuiltIn p q rfl rfl⟩

end TemplateSet

end ErrorPages
