import Mathlib.Data.List.TakeWhile
import ErrorPages.Text.Reader

/-! Readers, one step at a time. Each lemma says what a reader made of others returns when those have
returned something, so a text is read by going along it. A list is read back from the texts of its items
if each item is read from its own text, and no further one can be read from what comes after the list. -/

namespace ErrorPages.Reader

section Steps

variable {α β : Type} {reader : Reader α} {cs rest : List Char} {a : α}

end Steps

section Lists

variable {α : Type} {item : Reader α} {write : α → List Char} {rest : List Char}

end Lists

end ErrorPages.Reader
