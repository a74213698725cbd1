import ErrorPages.Proofs.Entities
import ErrorPages.Proofs.Markup

/-! The texts that escaping writes. They have no marks, and every ampersand in them begins an entity, also
where the text that was escaped looked escaped already. Every text of this kind is written so, from the
text that is read off it and from no other. -/

namespace ErrorPages.Markup

def unescape (s : String) : String := String.ofList (unescapeChars s.toList)

def entities : List String := ["&amp;", "&lt;", "&gt;", "&quot;", "&#39;"]

/-- Nothing in the text opens or closes an element or an attribute value, and every ampersand begins one
of the entities. -/
structure Escaped (cs : List Char) : Prop where
  unmarked : ∀ c ∈ cs, isMark c = false
  entity : ∀ rest, '&' :: rest <:+ cs → ∃ entity ∈ entities, entity.toList <+: '&' :: rest

theorem escapeChar_eq_singleton {c : Char} (hamp : c ≠ '&') (hmark : isMark c = false) :
    escapeChar c = [c] := by
  unfold escapeChar
  split
  case h_6 => rfl
  all_goals simp_all [isMark]

/-- A character is escaped as an entity, or it stands for itself and is no ampersand. -/
theorem escapeChar_cases (c : Char) :
    (∃ entity ∈ entities, escapeChar c = entity.toList) ∨ c ≠ '&' ∧ escapeChar c = [c] := by
  unfold escapeChar
  split
  case h_6 hamp _ _ _ _ => exact .inr ⟨hamp, rfl⟩
  all_goals exact .inl ⟨_, by decide, rfl⟩

/-- An entity is what is written for one character, and has no ampersand but the first. -/
theorem exists_toList_entity {entity : String} (h : entity ∈ entities) :
    ∃ c name, entity.toList = escapeChar c ∧ entity.toList = '&' :: name ∧ '&' ∉ name := by
  simp only [entities, List.mem_cons, List.not_mem_nil, or_false] at h
  rcases h with rfl | rfl | rfl | rfl | rfl
  · exact ⟨'&', _, rfl, rfl, by decide⟩
  · exact ⟨'<', _, rfl, rfl, by decide⟩
  · exact ⟨'>', _, rfl, rfl, by decide⟩
  · exact ⟨'"', _, rfl, rfl, by decide⟩
  · exact ⟨'\'', _, rfl, rfl, by decide⟩

theorem suffix_of_not_mem {front cs rest : List Char} {c : Char} (hc : c ∉ front)
    (h : c :: rest <:+ front ++ cs) : c :: rest <:+ cs := by
  induction front with
  | nil => exact h
  | cons d front ih =>
    rw [List.mem_cons, not_or] at hc
    rw [List.cons_append, List.suffix_cons_iff] at h
    rcases h with heq | hsuffix
    · exact absurd (List.cons.inj heq).1 hc.1
    · exact ih hc.2 hsuffix

theorem entity_of_suffix {c : Char} {cs rest : List Char} (h : '&' :: rest <:+ escapeChar c ++ cs) :
    (∃ entity ∈ entities, entity.toList <+: '&' :: rest) ∨ '&' :: rest <:+ cs := by
  rcases escapeChar_cases c with ⟨entity, hentity, hc⟩ | ⟨hamp, hc⟩
  · obtain ⟨-, name, -, hname, hnone⟩ := exists_toList_entity hentity
    rw [hc, hname, List.cons_append, List.suffix_cons_iff] at h
    rcases h with heq | hsuffix
    · left
      refine ⟨entity, hentity, cs, ?_⟩
      rw [hname, List.cons_append, heq]
    · exact .inr (suffix_of_not_mem hnone hsuffix)
  · rw [hc] at h
    exact .inr (suffix_of_not_mem (by simpa using hamp.symm) h)

theorem escaped_escapeChars (cs : List Char) : Escaped (escapeChars cs) := by
  constructor
  · intro c hc
    obtain ⟨d, -, hd⟩ := List.mem_flatMap.1 hc
    exact Bool.eq_false_iff.2 (List.filter_eq_nil_iff.1 (marks_escapeChar d) c hd)
  · intro rest h
    induction cs with
    | nil => simp at h
    | cons c cs ih =>
      rw [escapeChars_cons] at h
      rcases entity_of_suffix h with hentity | hsuffix
      · exact hentity
      · exact ih hsuffix

theorem Escaped.of_append {front cs : List Char} (h : Escaped (front ++ cs)) : Escaped cs := by
  constructor
  · intro c hc
    exact h.unmarked c (List.mem_append_right front hc)
  · intro rest hrest
    exact h.entity rest (hrest.trans (List.suffix_append front cs))

/-- What an escaped text begins with is a character that was escaped. -/
theorem Escaped.exists_escapeChar {c : Char} {cs : List Char} (h : Escaped (c :: cs)) :
    ∃ d rest, c :: cs = escapeChar d ++ rest := by
  by_cases hamp : c = '&'
  · subst hamp
    obtain ⟨entity, hentity, rest, hrest⟩ := h.entity cs (List.suffix_refl _)
    obtain ⟨d, -, hd, -⟩ := exists_toList_entity hentity
    exact ⟨d, rest, by rw [← hd, hrest]⟩
  · have hplain := escapeChar_eq_singleton hamp (h.unmarked c List.mem_cons_self)
    exact ⟨c, cs, by rw [hplain, List.singleton_append]⟩

theorem escapeChar_ne_nil (c : Char) : escapeChar c ≠ [] := by
  unfold escapeChar
  split <;> simp

/-- An escaped text is what is written for the text that is read off it. -/
theorem Escaped.escapeChars_unescapeChars {cs : List Char} (h : Escaped cs) :
    escapeChars (unescapeChars cs) = cs := by
  induction hlength : cs.length using Nat.strongRecOn generalizing cs with
  | ind n ih =>
    cases cs with
    | nil => rfl
    | cons c cs =>
      obtain ⟨d, rest, hcut⟩ := h.exists_escapeChar
      have hpos := List.length_pos_iff.2 (escapeChar_ne_nil d)
      rw [hcut] at h hlength ⊢
      rw [List.length_append] at hlength
      rw [unescapeChars_escapeChar, escapeChars_cons, ih rest.length (by omega) h.of_append rfl]

/-- Escaping loses nothing and is closed: an escaped text has neither marks nor ampersands of its own, and
it is read back as the text that was escaped; the texts of this kind are those that are written again when
they have been read. So no two texts are escaped alike, and a text can be escaped part by part. -/
theorem escape_lossless (s t : String) :
    Escaped (escape s).toList ∧
    unescape (escape s) = s ∧
    (Escaped t.toList ↔ escape (unescape t) = t) ∧
    (escape s = escape t ↔ s = t) ∧
    escape (s ++ t) = escape s ++ escape t := by
  refine ⟨?_, ?_, ?_, escape_inj, ?_⟩
  · rw [toList_escape]
    exact escaped_escapeChars s.toList
  · rw [unescape, toList_escape, unescapeChars_escapeChars, String.ofList_toList]
  · constructor
    · intro h
      rw [escape, unescape, String.toList_ofList, h.escapeChars_unescapeChars, String.ofList_toList]
    · intro h
      rw [← h, toList_escape]
      exact escaped_escapeChars _
  · rw [escape, String.toList_append, escapeChars_append, String.ofList_append]
    rfl

example : escape "&lt; '" = "&amp;lt; &#39;" ∧ unescape "&amp;lt; &#39" = "&lt; &#39" := by
  decide +kernel

end ErrorPages.Markup
