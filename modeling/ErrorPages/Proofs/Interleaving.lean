import Mathlib.Algebra.GroupWithZero.Nat

/-! Rows merged into one list. Each item of the merged list comes from the end that one row has reached,
so every row stands in it in its own order, and nothing else does. -/

namespace ErrorPages

/-- Puts the rows together one item after another: the next item of any row goes to the end. -/
inductive Interleaves {α : Type} : List (List α) → List α → Prop
  | empty (n : Nat) : Interleaves (List.replicate n []) []
  | next {rows : List (List α)} {merged row : List α} {i : Nat} (h : Interleaves rows merged)
      (hrow : rows[i]? = some row) (a : α) :
      Interleaves (rows.set i (row ++ [a])) (merged ++ [a])

/-- A sum over a list in which one item is replaced. -/
theorem sum_map_set {α : Type} (f : α → Nat) {l : List α} {i : Nat} {a : α} (h : l[i]? = some a)
    (b : α) : ((l.set i b).map f).sum + f a = (l.map f).sum + f b := by
  induction l generalizing i with
  | nil => simp at h
  | cons x l ih =>
    cases i with
    | zero =>
      obtain rfl : x = a := by simpa using h
      simp only [List.set_cons_zero, List.map_cons, List.sum_cons]
      omega
    | succ i =>
      have hrest := ih (by simpa using h)
      simp only [List.set_cons_succ, List.map_cons, List.sum_cons]
      omega

theorem getElem?_set_of_getElem? {α : Type} {l : List α} {i : Nat} {a : α} (h : l[i]? = some a)
    (b : α) (j : Nat) : (l.set i b)[j]? = if i = j then some b else l[j]? := by
  have hi : i < l.length := (List.getElem?_eq_some_iff.1 h).1
  rw [List.getElem?_set, if_pos hi]

/-- A row may go on by several items in succession. -/
theorem Interleaves.append {α : Type} {rows : List (List α)} {merged row : List α} {i : Nat}
    (h : Interleaves rows merged) (hrow : rows[i]? = some row) (items : List α) :
    Interleaves (rows.set i (row ++ items)) (merged ++ items) := by
  induction items generalizing rows merged row with
  | nil =>
    obtain ⟨hi, rfl⟩ := List.getElem?_eq_some_iff.1 hrow
    simpa using h
  | cons a items ih =>
    have hnext : (rows.set i (row ++ [a]))[i]? = some (row ++ [a]) := by
      rw [getElem?_set_of_getElem? hrow, if_pos rfl]
    have hrest := ih (h.next hrow a) hnext
    rwa [List.set_set, ← List.append_cons, ← List.append_cons] at hrest

theorem Interleaves.length_eq {α : Type} {rows : List (List α)} {merged : List α}
    (h : Interleaves rows merged) : merged.length = (rows.map List.length).sum := by
  induction h with
  | empty n => simp
  | @next rows merged row i _ hrow a ih =>
    have hset := sum_map_set List.length hrow (row ++ [a])
    rw [List.length_append, List.length_singleton] at hset
    rw [List.length_append, List.length_singleton, ih]
    omega

end ErrorPages
