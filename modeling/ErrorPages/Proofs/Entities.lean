import ErrorPages.Markup

/-! Escaped text read back. An entity begins with an ampersand, and so does nothing else in an escaped
text, since an ampersand of the text itself is escaped too. So the entities can be read from the left,
and a text has an escaped form of its own, even if it looks escaped already. -/

namespace ErrorPages.Markup

/-- Reads the five entities. What is none of them stands for itself. -/
def unescapeChars : List Char → List Char
  | '&' :: 'a' :: 'm' :: 'p' :: ';' :: rest => '&' :: unescapeChars rest
  | '&' :: 'l' :: 't' :: ';' :: rest => '<' :: unescapeChars rest
  | '&' :: 'g' :: 't' :: ';' :: rest => '>' :: unescapeChars rest
  | '&' :: 'q' :: 'u' :: 'o' :: 't' :: ';' :: rest => '"' :: unescapeChars rest
  | '&' :: '#' :: '3' :: '9' :: ';' :: rest => '\'' :: unescapeChars rest
  | c :: rest => c :: unescapeChars rest
  | [] => []

theorem unescapeChars_cons {c : Char} (h : c ≠ '&') (rest : List Char) :
    unescapeChars (c :: rest) = c :: unescapeChars rest := by
  rw [unescapeChars.eq_def]
  split <;> simp_all

theorem unescapeChars_escapeChar (c : Char) (rest : List Char) :
    unescapeChars (escapeChar c ++ rest) = c :: unescapeChars rest := by
  unfold escapeChar
  split
  case h_6 hamp _ _ _ _ => exact unescapeChars_cons hamp rest
  all_goals rfl

theorem unescapeChars_escapeChars (cs : List Char) : unescapeChars (escapeChars cs) = cs := by
  induction cs with
  | nil => rfl
  | cons c cs ih => rw [escapeChars_cons, unescapeChars_escapeChar, ih]

theorem escape_inj {s t : String} : escape s = escape t ↔ s = t := by
  constructor
  · intro h
    have hchars : escapeChars s.toList = escapeChars t.toList := by
      rw [← toList_escape, ← toList_escape, h]
    have hread := congrArg unescapeChars hchars
    rw [unescapeChars_escapeChars, unescapeChars_escapeChars] at hread
    exact String.toList_inj.1 hread
  · exact congrArg escape

end ErrorPages.Markup
