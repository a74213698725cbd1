import ErrorPages.Proofs.Template.Pair

/-! The language of templates. A source is cut into literals and tags: a literal ends at the first
pair of opening braces, and a tag at the first pair of closing ones behind it. There is one way at
most to cut a source. Every source begins with a row of tags, and what is left behind them is a last
literal, or a tag that is not closed or has no placeholder. -/

namespace ErrorPages

theorem Placeholder.ofName?_eq_some_iff {name : String} {p : Placeholder} :
    ofName? name = some p ↔ p.name = name := by
  constructor
  · intro h
    simpa using List.find?_some h
  · rintro rfl
    cases p <;> decide

theorem Placeholder.ofName?_eq_none_iff {name : String} : ofName? name = none ↔
    name ∉ ["title", "status", "message", "request_id"] := by
  rw [ofName?, List.find?_eq_none]
  simp [all, Placeholder.name, eq_comm]

namespace Template

/-- A literal and the tag that ends it, whose body names a placeholder. -/
structure Tag where
  literal : List Char
  body : List Char
  placeholder : Placeholder
deriving DecidableEq

namespace Tag

def text (tag : Tag) : List Char :=
  tag.literal ++ '{' :: '{' :: (tag.body ++ ['}', '}'])

/-- The braces of the tag are the first ones, and its body is a name among blanks. -/
structure Proper (tag : Tag) : Prop where
  literal : NoPair '{' (tag.literal ++ ['{'])
  body : NoPair '}' (tag.body ++ ['}'])
  name : Text.trim tag.body = tag.placeholder.name.toList

def output (page : Page) (tag : Tag) : List Char :=
  tag.literal ++ (tag.placeholder.value page).toList

theorem text_append (tag : Tag) (rest : List Char) :
    tag.text ++ rest = tag.literal ++ '{' :: '{' :: (tag.body ++ '}' :: '}' :: rest) := by
  simp [text]

theorem Proper.ofName? {tag : Tag} (h : tag.Proper) :
    Placeholder.ofName? (String.ofList (Text.trim tag.body)) = some tag.placeholder := by
  rw [Placeholder.ofName?_eq_some_iff, h.name, String.ofList_toList]

end Tag

/-- A source in pieces: tags with the literals before them, and the literal after the last tag. -/
structure Splitting where
  tags : List Tag
  last : List Char
deriving DecidableEq

namespace Splitting

def source (s : Splitting) : List Char := s.tags.flatMap Tag.text ++ s.last

structure Proper (s : Splitting) : Prop where
  tags : ∀ tag ∈ s.tags, tag.Proper
  last : NoPair '{' s.last

def output (page : Page) (s : Splitting) : List Char :=
  s.tags.flatMap (Tag.output page) ++ s.last

end Splitting

/-- Two proper tags at the front of one text are one tag. -/
theorem Tag.eq_of_text_append {tag tag' : Tag} {rest rest' : List Char} (h : tag.Proper)
    (h' : tag'.Proper) (heq : tag.text ++ rest = tag'.text ++ rest') :
    tag = tag' ∧ rest = rest' := by
  rw [tag.text_append, tag'.text_append] at heq
  have hliteral := congrArg (splitAtPair '{') heq
  rw [splitAtPair_append _ h.literal, splitAtPair_append _ h'.literal] at hliteral
  obtain ⟨hl, hclose⟩ := Prod.mk.inj (Option.some.inj hliteral)
  have hbody := congrArg (splitAtPair '}') hclose
  rw [splitAtPair_append _ h.body, splitAtPair_append _ h'.body] at hbody
  obtain ⟨hb, hrest⟩ := Prod.mk.inj (Option.some.inj hbody)
  have hp : tag.placeholder = tag'.placeholder := by
    have hname := h.ofName?
    rw [hb, h'.ofName?] at hname
    exact (Option.some.inj hname).symm
  refine ⟨?_, hrest⟩
  cases tag
  cases tag'
  simp_all

/-- What is left of a source behind the tags that render: a last literal, or a tag that is not
closed or has no placeholder. -/
inductive Rest : List Char → Prop
  | last {cs : List Char} (h : NoPair '{' cs) : Rest cs
  | unterminated {literal tail : List Char} (hl : NoPair '{' (literal ++ ['{']))
      (ht : NoPair '}' tail) : Rest (literal ++ '{' :: '{' :: tail)
  | unknown {literal body rest : List Char} (hl : NoPair '{' (literal ++ ['{']))
      (hb : NoPair '}' (body ++ ['}']))
      (hn : Placeholder.ofName? (String.ofList (Text.trim body)) = none) :
      Rest (literal ++ '{' :: '{' :: (body ++ '}' :: '}' :: rest))

/-- No proper tag stands at the front of such a rest. -/
theorem Rest.ne_text_append {rest : List Char} (h : Rest rest) {tag : Tag} (ht : tag.Proper)
    (more : List Char) : rest ≠ tag.text ++ more := by
  intro heq
  rw [tag.text_append] at heq
  have hopen := congrArg (splitAtPair '{') heq
  rw [splitAtPair_append _ ht.literal] at hopen
  cases h with
  | last hl =>
    rw [splitAtPair_eq_none_iff.2 hl] at hopen
    cases hopen
  | unterminated hl htail =>
    rw [splitAtPair_append _ hl] at hopen
    obtain ⟨-, hclose⟩ := Prod.mk.inj (Option.some.inj hopen)
    have hbody := congrArg (splitAtPair '}') hclose
    rw [splitAtPair_append _ ht.body, splitAtPair_eq_none_iff.2 htail] at hbody
    cases hbody
  | unknown hl hb hn =>
    rw [splitAtPair_append _ hl] at hopen
    obtain ⟨-, hclose⟩ := Prod.mk.inj (Option.some.inj hopen)
    have hbody := congrArg (splitAtPair '}') hclose
    rw [splitAtPair_append _ ht.body, splitAtPair_append _ hb] at hbody
    obtain ⟨rfl, -⟩ := Prod.mk.inj (Option.some.inj hbody)
    rw [ht.ofName?] at hn
    cases hn

/-- A source is a row of proper tags and such a rest in one way at most. -/
theorem tags_rest_inj {tags tags' : List Tag} {rest rest' : List Char}
    (h : ∀ tag ∈ tags, tag.Proper) (h' : ∀ tag ∈ tags', tag.Proper) (hr : Rest rest)
    (hr' : Rest rest')
    (heq : tags.flatMap Tag.text ++ rest = tags'.flatMap Tag.text ++ rest') :
    tags = tags' ∧ rest = rest' := by
  induction tags generalizing tags' with
  | nil =>
    cases tags' with
    | nil => exact ⟨rfl, heq⟩
    | cons tag' tags' =>
      rw [List.flatMap_nil, List.nil_append, List.flatMap_cons, List.append_assoc] at heq
      exact absurd heq (hr.ne_text_append (h' tag' List.mem_cons_self) _)
  | cons tag tags ih =>
    cases tags' with
    | nil =>
      rw [List.flatMap_nil, List.nil_append, List.flatMap_cons, List.append_assoc] at heq
      exact absurd heq.symm (hr'.ne_text_append (h tag List.mem_cons_self) _)
    | cons tag' tags' =>
      simp only [List.flatMap_cons, List.append_assoc] at heq
      obtain ⟨rfl, hrest⟩ := Tag.eq_of_text_append (h tag List.mem_cons_self)
        (h' tag' List.mem_cons_self) heq
      obtain ⟨rfl, rfl⟩ := ih (fun t ht => h t (List.mem_cons_of_mem _ ht))
        (fun t ht => h' t (List.mem_cons_of_mem _ ht)) hrest
      exact ⟨rfl, rfl⟩

/-- Every source is a row of proper tags and such a rest. -/
theorem exists_tags (cs : List Char) :
    ∃ (tags : List Tag) (rest : List Char),
      cs = tags.flatMap Tag.text ++ rest ∧ (∀ tag ∈ tags, tag.Proper) ∧ Rest rest := by
  cases ho : splitAtPair '{' cs with
  | none => exact ⟨[], cs, rfl, by simp, .last (splitAtPair_eq_none_iff.1 ho)⟩
  | some parts =>
    obtain ⟨literal, tail⟩ := parts
    obtain ⟨rfl, hl⟩ := splitAtPair_eq_some_iff.1 ho
    cases hc : splitAtPair '}' tail with
    | none => exact ⟨[], _, rfl, by simp, .unterminated hl (splitAtPair_eq_none_iff.1 hc)⟩
    | some parts =>
      obtain ⟨body, next⟩ := parts
      obtain ⟨rfl, hb⟩ := splitAtPair_eq_some_iff.1 hc
      cases hn : Placeholder.ofName? (String.ofList (Text.trim body)) with
      | none => exact ⟨[], _, rfl, by simp, .unknown hl hb hn⟩
      | some placeholder =>
        obtain ⟨tags, rest, hnext, htags, hrest⟩ := exists_tags next
        have hname : Text.trim body = placeholder.name.toList := by
          rw [Placeholder.ofName?_eq_some_iff.1 hn, String.toList_ofList]
        have htag : (⟨literal, body, placeholder⟩ : Tag).Proper := ⟨hl, hb, hname⟩
        refine ⟨⟨literal, body, placeholder⟩ :: tags, rest, ?_, ?_, hrest⟩
        · rw [List.flatMap_cons, List.append_assoc, ← hnext, Tag.text_append]
        · exact List.forall_mem_cons.2 ⟨htag, htags⟩
termination_by cs.length
decreasing_by
  subst_vars
  simp only [List.length_append, List.length_cons]
  omega

end Template

end ErrorPages
