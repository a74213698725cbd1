import ErrorPages.Json
import ErrorPages.Proofs.Separator

/-! JSON values as they are written. Items and members stand between commas, and no character below a space
is written as it is, so a text of any value stays on one line. What is said of all values is shown for a
value from the values right inside it. -/

namespace ErrorPages.Json

section Inside

/-- The values right inside an array or an object. -/
def children : Json → List Json
  | .arr items => items
  | .obj members => members.map (·.2)
  | _ => []

/-- The value, and every value at any depth inside it, has this property. -/
inductive Everywhere (P : Json → Prop) : Json → Prop where
  | intro {v : Json} (here : P v) (inside : ∀ w ∈ v.children, Everywhere P w) : Everywhere P v

theorem Everywhere.of_children_eq_nil {P : Json → Prop} {v : Json} (here : P v)
    (hnone : v.children = []) : v.Everywhere P :=
  .intro here fun w hw => by simp [hnone] at hw

theorem Everywhere.imp {P Q : Json → Prop} (h : ∀ v, P v → Q v) {v : Json} (hv : v.Everywhere P) :
    v.Everywhere Q := by
  induction hv with
  | intro here _ ih => exact .intro (h _ here) ih

end Inside

section Controls

end Controls

end ErrorPages.Json
