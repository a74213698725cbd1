import ErrorPages.Proofs.Template.Rendering

/-! Rendering by byte positions. A cursor moves through the source, and each of its turns looks for two
pairs of braces and cuts the text at the positions where they stand. Every such position is a boundary
between characters, so no cut fails. A turn that writes a tag takes the braces off the text that is left,
four bytes at least, so the turns come to an end, and the rendering they end with is the one by
characters. -/

namespace ErrorPages.Template

/-- Where rendering stands in a source: how many bytes are behind it, which characters are left, and
what the buffer holds. -/
structure Cursor where
  offset : Nat
  rest : List Char
  text : String
deriving DecidableEq

/-- What a turn comes to: a tag is written and the cursor moved behind it, or rendering is over. -/
inductive Turn where
  | goesOn (next : Cursor)
  | ends (rendering : Rendering)
deriving DecidableEq

namespace Cursor

/-- One turn of rendering. It comes to nothing if it cuts a text where there is no cut. -/
def turn? (template : String) (page : Page) (s : Cursor) : Option Turn :=
  match Text.find? ['{', '{'] s.rest with
  | none => some (.ends ⟨s.text ++ String.ofList s.rest, .finished⟩)
  | some start => do
    let literal ← Text.takeBytes? start s.rest
    let text := s.text ++ String.ofList literal
    let tail ← Text.dropBytes? (start + 2) s.rest
    match Text.find? ['}', '}'] tail with
    | none => some (.ends ⟨text, .failed (.unterminatedTag template (s.offset + start))⟩)
    | some stop => do
      let body ← Text.takeBytes? stop tail
      let name := String.ofList (Text.trim body)
      match Placeholder.ofName? name with
      | none => some (.ends ⟨text, .failed (.unknownPlaceholder template name)⟩)
      | some placeholder => do
        let consumed := start + 2 + stop + 2
        let rest ← Text.dropBytes? consumed s.rest
        some (.goesOn ⟨s.offset + consumed, rest, text ++ placeholder.value page⟩)

/-- The positions at which a turn cuts are boundaries of the text that it cuts: where the first braces
open, and behind them; where they close, in the text behind those that opened; and behind the tag. -/
structure CutsWell (s : Cursor) : Prop where
  opening : ∀ start, Text.find? ['{', '{'] s.rest = some start →
    Text.IsBoundary start s.rest ∧ Text.IsBoundary (start + 2) s.rest
  closing : ∀ start tail stop, Text.find? ['{', '{'] s.rest = some start →
    Text.dropBytes? (start + 2) s.rest = some tail → Text.find? ['}', '}'] tail = some stop →
    Text.IsBoundary stop tail ∧ Text.IsBoundary (start + 2 + stop + 2) s.rest

/-- From one cursor to another in so many turns, each of which writes a tag. -/
inductive Turns (template : String) (page : Page) (start : Cursor) : Nat → Cursor → Prop
  | refl : Turns template page start 0 start
  | next {n : Nat} {s s' : Cursor} (h : Turns template page start n s)
      (hturn : s.turn? template page = some (.goesOn s')) : Turns template page start (n + 1) s'

end Cursor

section Pairs

variable {c : Char} {cs before after : List Char}

theorem find?_pair (c : Char) (cs : List Char) :
    Text.find? [c, c] cs = (splitAtPair c cs).map fun parts => Text.byteSize parts.1 := by
  induction cs with
  | nil => rfl
  | cons a cs ih =>
    cases cs with
    | nil =>
      rw [Text.find?, ih]
      simp [splitAtPair]
    | cons b rest =>
      rw [Text.find?, ih, splitAtPair]
      by_cases h : a = c ∧ b = c
      · obtain ⟨rfl, rfl⟩ := h
        simp [Text.byteSize]
      · have hpair : [c, c].isPrefixOf (a :: b :: rest) = false := by
          grind [List.isPrefixOf]
        rw [if_neg h, hpair]
        simp [Text.byteSize, Function.comp_def]

theorem find?_pair_eq_none (h : NoPair c cs) : Text.find? [c, c] cs = none := by
  rw [find?_pair, splitAtPair_eq_none_iff.2 h]
  rfl

theorem dropBytes?_pair (hc : c.utf8Size = 1) (before after : List Char) :
    Text.dropBytes? (Text.byteSize before + 2) (before ++ c :: c :: after) = some after := by
  have hpair : Text.byteSize [c, c] = 2 := by simp [Text.byteSize, hc]
  rw [← hpair, Text.dropBytes?_add_append]
  exact Text.dropBytes?_append [c, c] after

/-- The first pair of braces is found, and the text before and behind it can be cut off. -/
theorem cuts_at_pair (hc : c.utf8Size = 1) (h : NoPair c (before ++ [c])) (after : List Char)
    (hcs : cs = before ++ c :: c :: after) :
    Text.find? [c, c] cs = some (Text.byteSize before) ∧
    Text.takeBytes? (Text.byteSize before) cs = some before ∧
    Text.dropBytes? (Text.byteSize before + 2) cs = some after := by
  subst hcs
  refine ⟨?_, Text.takeBytes?_append before _, dropBytes?_pair hc before after⟩
  rw [find?_pair, splitAtPair_append after h]
  rfl

theorem isBoundary_of_find? (hc : c.utf8Size = 1) {n : Nat} (h : Text.find? [c, c] cs = some n) :
    Text.IsBoundary n cs ∧ ∃ after, Text.dropBytes? (n + 2) cs = some after := by
  rw [find?_pair] at h
  obtain ⟨⟨before, after⟩, hcut, rfl⟩ := Option.map_eq_some_iff.1 h
  rw [eq_of_splitAtPair hcut]
  constructor
  · exact Text.isBoundary_of_dropBytes? (Text.dropBytes?_append before _)
  · exact ⟨after, dropBytes?_pair hc before after⟩

end Pairs

namespace Cursor

theorem cutsWell (s : Cursor) : s.CutsWell := by
  constructor
  · intro start hstart
    obtain ⟨hboundary, tail, htail⟩ := isBoundary_of_find? rfl hstart
    exact ⟨hboundary, Text.isBoundary_of_dropBytes? htail⟩
  · intro start tail stop hstart htail hstop
    obtain ⟨hboundary, next, hnext⟩ := isBoundary_of_find? rfl hstop
    have hconsumed : Text.dropBytes? (start + 2 + stop + 2) s.rest = some next := by
      rw [Nat.add_assoc, Text.dropBytes?_add htail, hnext]
    exact ⟨hboundary, Text.isBoundary_of_dropBytes? hconsumed⟩

variable {template : String} {page : Page} {s : Cursor}

theorem turn?_last (h : NoPair '{' s.rest) :
    s.turn? template page = some (.ends ⟨s.text ++ String.ofList s.rest, .finished⟩) := by
  rw [turn?, find?_pair_eq_none h]

theorem turn?_unterminated {literal tail : List Char} (hl : NoPair '{' (literal ++ ['{']))
    (ht : NoPair '}' tail) (hrest : s.rest = literal ++ '{' :: '{' :: tail) :
    s.turn? template page = some (.ends ⟨s.text ++ String.ofList literal,
      .failed (.unterminatedTag template (s.offset + Text.byteSize literal))⟩) := by
  obtain ⟨hstart, hliteral, htail⟩ := cuts_at_pair rfl hl tail hrest
  simp only [turn?, hstart, hliteral, htail, find?_pair_eq_none ht, Option.bind_eq_bind,
    Option.bind_some]

/-- A tag that is closed is written or refused. -/
theorem turn?_closed {literal body next : List Char} (hl : NoPair '{' (literal ++ ['{']))
    (hb : NoPair '}' (body ++ ['}']))
    (hrest : s.rest = literal ++ '{' :: '{' :: (body ++ '}' :: '}' :: next)) :
    s.turn? template page = some (match Placeholder.ofName? (String.ofList (Text.trim body)) with
      | none => .ends ⟨s.text ++ String.ofList literal,
          .failed (.unknownPlaceholder template (String.ofList (Text.trim body)))⟩
      | some placeholder =>
        .goesOn ⟨s.offset + (Text.byteSize literal + 2 + Text.byteSize body + 2), next,
          s.text ++ String.ofList literal ++ placeholder.value page⟩) := by
  obtain ⟨hstart, hliteral, htail⟩ := cuts_at_pair rfl hl _ hrest
  obtain ⟨hstop, hbody, hclosed⟩ := cuts_at_pair rfl hb next rfl
  -- the last cut is counted from the literal on, the one behind it from the opening braces
  have hnext : Text.dropBytes? (Text.byteSize literal + 2 + Text.byteSize body + 2) s.rest =
      some next := by
    rw [Nat.add_assoc, Text.dropBytes?_add htail, hclosed]
  simp only [turn?, hstart, hliteral, htail, hstop, hbody, hnext, Option.bind_eq_bind,
    Option.bind_some]
  cases Placeholder.ofName? (String.ofList (Text.trim body)) <;> rfl

theorem turn?_tag {tag : Tag} (h : tag.Proper) {next : List Char}
    (hrest : s.rest = tag.text ++ next) :
    s.turn? template page = some (.goesOn ⟨s.offset + Text.byteSize tag.text, next,
      s.text ++ String.ofList (tag.output page)⟩) := by
  rw [tag.text_append] at hrest
  rw [turn?_closed h.literal h.body hrest, h.ofName?, tag.byteSize_text, Tag.output,
    String.ofList_append, String.ofList_toList, ← String.append_assoc]

/-- Where no proper tag stands in front, the turn ends as rendering by characters does. -/
theorem turn?_rest (h : Rest s.rest) : s.turn? template page =
    some (.ends (renderFrom template page s.text s.offset s.rest)) := by
  generalize hrest : s.rest = rest at h
  cases h with
  | last hl =>
    subst hrest
    rw [turn?_last hl, renderFrom_last hl]
  | unterminated hl ht =>
    rw [turn?_unterminated hl ht hrest, renderFrom_unterminated hl ht]
  | unknown hl hb hn => rw [turn?_closed hl hb hrest, renderFrom_closed hl hb, hn]

/-- A turn writes a proper tag and goes on behind it, or it is the last one. -/
theorem turn?_cases (template : String) (page : Page) (s : Cursor) :
    (∃ (tag : Tag) (next : List Char), tag.Proper ∧ s.rest = tag.text ++ next ∧
      s.turn? template page = some (.goesOn ⟨s.offset + Text.byteSize tag.text, next,
        s.text ++ String.ofList (tag.output page)⟩)) ∨
    s.turn? template page = some (.ends (renderFrom template page s.text s.offset s.rest)) := by
  obtain ⟨tags, rest, hcut, htags, hrest⟩ := exists_tags s.rest
  cases tags with
  | nil =>
    right
    apply turn?_rest
    rw [hcut]
    exact hrest
  | cons tag tags =>
    left
    have htag : tag.Proper := htags tag List.mem_cons_self
    rw [List.flatMap_cons, List.append_assoc] at hcut
    exact ⟨tag, _, htag, hcut, turn?_tag htag hcut⟩

/-- What turns read and write between two cursors: a row of proper tags. -/
structure Reads (page : Page) (tags : List Tag) (s s' : Cursor) : Prop where
  proper : ∀ tag ∈ tags, tag.Proper
  rest : s.rest = tags.flatMap Tag.text ++ s'.rest
  offset : s'.offset = s.offset + Text.byteSize (tags.flatMap Tag.text)
  text : s'.text = s.text ++ String.ofList (tags.flatMap (Tag.output page))

theorem reads_nil (page : Page) (s : Cursor) : Reads page [] s s :=
  ⟨by simp, rfl, rfl, by simp⟩

theorem reads_turn {s' : Cursor} (h : s.turn? template page = some (.goesOn s')) :
    ∃ tag, Reads page [tag] s s' := by
  obtain ⟨tag, next, htag, hrest, hturn⟩ | hturn := turn?_cases template page s
  · rw [hturn] at h
    cases h
    exact ⟨tag, by simpa using htag, by simpa using hrest, by simp, by simp⟩
  · rw [hturn] at h
    cases h

theorem Reads.trans {tags tags' : List Tag} {a b c : Cursor} (h : Reads page tags a b)
    (h' : Reads page tags' b c) : Reads page (tags ++ tags') a c := by
  constructor
  · rw [List.forall_mem_append]
    exact ⟨h.proper, h'.proper⟩
  · rw [h.rest, h'.rest, List.flatMap_append, List.append_assoc]
  · rw [h'.offset, h.offset, List.flatMap_append, Text.byteSize_append, Nat.add_assoc]
  · rw [h'.text, h.text, List.flatMap_append, String.ofList_append, String.append_assoc]

/-- As many tags are read as there are turns. -/
theorem Turns.exists_reads {start : Cursor} {n : Nat} (h : Turns template page start n s) :
    ∃ tags, tags.length = n ∧ Reads page tags start s := by
  induction h with
  | refl => exact ⟨[], rfl, reads_nil page start⟩
  | next _ hturn ih =>
    obtain ⟨tags, hlength, hreads⟩ := ih
    obtain ⟨tag, htag⟩ := reads_turn hturn
    refine ⟨tags ++ [tag], ?_, hreads.trans htag⟩
    rw [List.length_append, hlength, List.length_singleton]

/-- A tag takes four bytes for its braces alone. -/
theorem four_mul_length_le (tags : List Tag) :
    4 * tags.length ≤ Text.byteSize (tags.flatMap Tag.text) := by
  induction tags with
  | nil => exact Nat.le_refl 0
  | cons tag tags ih =>
    have htag : 4 ≤ Text.byteSize tag.text := by
      rw [tag.byteSize_text]
      omega
    rw [List.length_cons, List.flatMap_cons, Text.byteSize_append]
    omega

theorem Reads.byteSize_rest {tags : List Tag} {s s' : Cursor} (h : Reads page tags s s') :
    Text.byteSize s'.rest + 4 * tags.length ≤ Text.byteSize s.rest := by
  have htags := four_mul_length_le tags
  rw [h.rest, Text.byteSize_append]
  omega

theorem Reads.renderFrom_eq {tags : List Tag} {s s' : Cursor} (h : Reads page tags s s') :
    renderFrom template page s'.text s'.offset s'.rest =
      renderFrom template page s.text s.offset s.rest := by
  rw [h.rest, renderFrom_tags h.proper, h.text, h.offset]

theorem Turns.exists_past_tags {start : Cursor} {n : Nat} (h : Turns template page start n s)
    {tags : List Tag} {rest : List Char} (htags : ∀ tag ∈ tags, tag.Proper)
    (hrest : s.rest = tags.flatMap Tag.text ++ rest) :
    ∃ n' s', Turns template page start n' s' ∧ s'.rest = rest := by
  induction tags generalizing n s with
  | nil => exact ⟨n, s, h, hrest⟩
  | cons tag tags ih =>
    rw [List.forall_mem_cons] at htags
    rw [List.flatMap_cons, List.append_assoc] at hrest
    exact ih (.next h (turn?_tag htags.1 hrest)) htags.2 rfl

/-- The turns come to an end, wherever they begin, and end as rendering by characters does. -/
theorem exists_turns_ends (template : String) (page : Page) (start : Cursor) :
    ∃ n s, Turns template page start n s ∧ s.turn? template page =
      some (.ends (renderFrom template page start.text start.offset start.rest)) := by
  obtain ⟨tags, rest, hcut, htags, hrest⟩ := Template.exists_tags start.rest
  obtain ⟨n, s, hturns, rfl⟩ := Turns.exists_past_tags .refl htags hcut
  obtain ⟨_, -, hreads⟩ := hturns.exists_reads
  refine ⟨n, s, hturns, ?_⟩
  rw [turn?_rest hrest, hreads.renderFrom_eq]

end Cursor

/-- Rendering by byte positions is safe and comes to an end. Wherever it has come after some tags, its
positions are boundaries of the text, and its offset is that of the text that is left; its next turn cuts
nothing that cannot be cut, and takes four bytes if it writes a tag. The turns end with the rendering of
the source. -/
theorem render_by_turns (template source : String) (page : Page) (buffer : String) :
    let start : Cursor := ⟨0, source.toList, buffer⟩
    (∀ (tags : Nat) (s : Cursor), Cursor.Turns template page start tags s →
      s.CutsWell ∧
      s.offset + Text.byteSize s.rest = source.utf8ByteSize ∧
      Text.dropBytes? s.offset source.toList = some s.rest ∧
      tags ≤ source.utf8ByteSize / 4 ∧
      s.turn? template page ≠ none ∧
      ∀ s', s.turn? template page = some (.goesOn s') →
        Text.byteSize s'.rest + 4 ≤ Text.byteSize s.rest) ∧
    ∃ (tags : Nat) (s : Cursor), Cursor.Turns template page start tags s ∧
      s.turn? template page = some (.ends (render template source page buffer)) := by
  intro start
  have hsource : Text.byteSize start.rest = source.utf8ByteSize := by
    rw [Text.byteSize_eq_utf8ByteSize, String.ofList_toList]
  refine ⟨?_, Cursor.exists_turns_ends template page start⟩
  intro n s hturns
  obtain ⟨tags, rfl, hreads⟩ := hturns.exists_reads
  have hoffset : s.offset = Text.byteSize (tags.flatMap Tag.text) :=
    hreads.offset.trans (Nat.zero_add _)
  refine ⟨s.cutsWell, ?_, ?_, ?_, ?_, ?_⟩
  · rw [hoffset, ← hsource, hreads.rest, Text.byteSize_append]
  · exact Text.dropBytes?_eq_some_iff.2 ⟨_, hreads.rest, hoffset⟩
  · have hsize := hreads.byteSize_rest
    omega
  · obtain ⟨tag, next, -, -, hturn⟩ | hturn := Cursor.turn?_cases template page s
    · simp [hturn]
    · simp [hturn]
  · intro s' hturn
    obtain ⟨tag, htag⟩ := Cursor.reads_turn hturn
    exact htag.byteSize_rest

/-- A tag between characters of two and of three bytes. -/
theorem render_by_turns_between :
    let source := "é{{title}}€"
    let page : Page := ⟨"Gone", 404, none, none⟩
    let s : Cursor := ⟨11, ['€'], "éGone"⟩
    Cursor.Turns "page" page ⟨0, source.toList, ""⟩ 1 s ∧
    s.CutsWell ∧
    11 + Text.byteSize ['€'] = source.utf8ByteSize ∧
    Text.dropBytes? 11 source.toList = some ['€'] ∧
    1 ≤ source.utf8ByteSize / 4 ∧
    s.turn? "page" page ≠ none := by
  intro source page s
  have hturn : Cursor.turn? "page" page ⟨0, source.toList, ""⟩ = some (.goesOn s) := by
    decide +kernel
  have hturns : Cursor.Turns "page" page ⟨0, source.toList, ""⟩ 1 s := .next .refl hturn
  obtain ⟨hcuts, hsize, hrest, htags, hnext, -⟩ :=
    (render_by_turns "page" source page "").1 1 s hturns
  exact ⟨hturns, hcuts, hsize, hrest, htags, hnext⟩

end ErrorPages.Template
