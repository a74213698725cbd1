import ErrorPages.Proofs.Template.Splitting
import ErrorPages.TemplateSet

/-! Rendering along the pieces of a source. Proper tags are written one by one, and the text behind
them decides how rendering ends. It finishes exactly on the sources that can be cut into proper tags
and a last literal; the buffer then ends with the literals as they are and a value in the place of
each tag, whatever braces the value holds. -/

namespace ErrorPages

namespace Template

variable {template : String} {page : Page} {buffer : String} {offset : Nat}

theorem renderFrom_last {rest : List Char} (h : NoPair '{' rest) :
    renderFrom template page buffer offset rest = ⟨buffer ++ String.ofList rest, .finished⟩ := by
  unfold renderFrom
  split
  · rfl
  · next ho => rw [splitAtPair_eq_none_iff.2 h] at ho; cases ho

theorem renderFrom_unterminated {literal tail : List Char} (hl : NoPair '{' (literal ++ ['{']))
    (ht : NoPair '}' tail) :
    renderFrom template page buffer offset (literal ++ '{' :: '{' :: tail) =
      ⟨buffer ++ String.ofList literal,
        .failed (.unterminatedTag template (offset + Text.byteSize literal))⟩ := by
  unfold renderFrom
  split
  · next ho => rw [splitAtPair_append tail hl] at ho; cases ho
  · next ho =>
    rw [splitAtPair_append tail hl] at ho
    obtain ⟨rfl, rfl⟩ := Prod.mk.inj (Option.some.inj ho)
    split
    · rfl
    · next hc => rw [splitAtPair_eq_none_iff.2 ht] at hc; cases hc

/-- A tag that is closed, whatever its body holds. -/
theorem renderFrom_closed {literal body : List Char} (hl : NoPair '{' (literal ++ ['{']))
    (hb : NoPair '}' (body ++ ['}'])) (rest : List Char) :
    renderFrom template page buffer offset
        (literal ++ '{' :: '{' :: (body ++ '}' :: '}' :: rest)) =
      match Placeholder.ofName? (String.ofList (Text.trim body)) with
      | none =>
        ⟨buffer ++ String.ofList literal,
          .failed (.unknownPlaceholder template (String.ofList (Text.trim body)))⟩
      | some placeholder =>
        renderFrom template page (buffer ++ String.ofList literal ++ placeholder.value page)
          (offset + (Text.byteSize literal + 2 + Text.byteSize body + 2)) rest := by
  have hopen := splitAtPair_append (body ++ '}' :: '}' :: rest) hl
  rw [renderFrom]
  split
  · next ho => rw [hopen] at ho; cases ho
  · next ho =>
    rw [hopen] at ho
    obtain ⟨rfl, rfl⟩ := Prod.mk.inj (Option.some.inj ho)
    split
    · next hc => rw [splitAtPair_append rest hb] at hc; cases hc
    · next hc =>
      rw [splitAtPair_append rest hb] at hc
      obtain ⟨rfl, rfl⟩ := Prod.mk.inj (Option.some.inj hc)
      cases hn : Placeholder.ofName? (String.ofList (Text.trim body)) <;> simp only [hn]

theorem Tag.byteSize_text (tag : Tag) :
    Text.byteSize tag.text = Text.byteSize tag.literal + 2 + Text.byteSize tag.body + 2 := by
  simp only [Tag.text, Text.byteSize_append, Text.byteSize, show '{'.utf8Size = 1 from rfl,
    show '}'.utf8Size = 1 from rfl]
  omega

theorem renderFrom_tag {tag : Tag} (h : tag.Proper) (rest : List Char) :
    renderFrom template page buffer offset (tag.text ++ rest) =
      renderFrom template page (buffer ++ String.ofList (tag.output page))
        (offset + Text.byteSize tag.text) rest := by
  rw [tag.text_append, renderFrom_closed h.literal h.body, h.ofName?, tag.byteSize_text, Tag.output,
    String.ofList_append, String.ofList_toList, ← String.append_assoc]

theorem renderFrom_tags {tags : List Tag} (h : ∀ tag ∈ tags, tag.Proper) (rest : List Char) :
    renderFrom template page buffer offset (tags.flatMap Tag.text ++ rest) =
      renderFrom template page (buffer ++ String.ofList (tags.flatMap (Tag.output page)))
        (offset + Text.byteSize (tags.flatMap Tag.text)) rest := by
  induction tags generalizing buffer offset with
  | nil => simp [Text.byteSize]
  | cons tag tags ih =>
    rw [List.flatMap_cons, List.append_assoc, renderFrom_tag (h tag List.mem_cons_self),
      ih fun t ht => h t (List.mem_cons_of_mem _ ht), List.flatMap_cons, String.ofList_append,
      Text.byteSize_append, String.append_assoc, Nat.add_assoc]

theorem renderFrom_splitting {s : Splitting} (h : s.Proper) :
    renderFrom template page buffer offset s.source =
      ⟨buffer ++ String.ofList (s.output page), .finished⟩ := by
  rw [Splitting.source, renderFrom_tags h.tags, renderFrom_last h.last, Splitting.output,
    String.ofList_append, String.append_assoc]

theorem exists_splitting {cs : List Char}
    (h : (renderFrom template page buffer offset cs).outcome = .finished) :
    ∃ s : Splitting, s.Proper ∧ s.source = cs := by
  obtain ⟨tags, rest, rfl, htags, hrest⟩ := exists_tags cs
  rw [renderFrom_tags htags] at h
  cases hrest with
  | last hlast => exact ⟨⟨tags, rest⟩, ⟨htags, hlast⟩, rfl⟩
  | unterminated hl ht => rw [renderFrom_unterminated hl ht] at h; cases h
  | unknown hl hb hn => rw [renderFrom_closed hl hb, hn] at h; cases h

end Template

namespace TemplateSet

end TemplateSet

end ErrorPages
