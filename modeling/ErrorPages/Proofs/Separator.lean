import Mathlib.Data.List.TakeWhile

/-! Lists that are joined with a separator, and cut at it again. The first separator ends what stands before
it, if none stands in there, so a list that has been joined is settled by its parts. -/

namespace ErrorPages

variable {α : Type}

section Cutting

variable [BEq α] [LawfulBEq α] {a : α} {x y : List α}

theorem bne_of_not_mem (h : a ∉ x) : ∀ b ∈ x, (b != a) = true := fun _ hb =>
  bne_iff_ne.2 (ne_of_mem_of_not_mem hb h)

theorem takeWhile_append_cons (h : a ∉ x) (rest : List α) :
    (x ++ a :: rest).takeWhile (· != a) = x := by
  rw [List.takeWhile_append_of_pos (bne_of_not_mem h), List.takeWhile_cons_of_neg (by simp),
    List.append_nil]

theorem dropWhile_append_cons (h : a ∉ x) (rest : List α) :
    (x ++ a :: rest).dropWhile (· != a) = a :: rest := by
  rw [List.dropWhile_append_of_pos (bne_of_not_mem h), List.dropWhile_cons_of_neg (by simp)]

/-- What stands before the first separator is settled by the whole, and so is what follows. -/
theorem append_cons_inj_of_not_mem (hx : a ∉ x) (hy : a ∉ y) {s t : List α} :
    x ++ a :: s = y ++ a :: t ↔ x = y ∧ s = t := by
  constructor
  · intro h
    obtain rfl : x = y := by rw [← takeWhile_append_cons hx s, h, takeWhile_append_cons hy]
    exact ⟨rfl, List.tail_eq_of_cons_eq (List.append_cancel_left h)⟩
  · rintro ⟨rfl, rfl⟩
    rfl

end Cutting

section Joining

variable {separator : List α} {part : List α} {parts : List (List α)}

theorem intercalate_cons : separator.intercalate (part :: parts) =
    part ++ parts.flatMap fun next => separator ++ next := by
  induction parts generalizing part with
  | nil => simp
  | cons next parts ih =>
    rw [List.intercalate_cons_cons, ih, List.flatMap_cons, List.append_assoc, List.append_assoc]

theorem forall_mem_intercalate {P : α → Prop} (hseparator : ∀ a ∈ separator, P a)
    (hparts : ∀ part ∈ parts, ∀ a ∈ part, P a) : ∀ a ∈ separator.intercalate parts, P a := by
  cases parts with
  | nil => simp
  | cons part parts =>
    rw [List.forall_mem_cons] at hparts
    rw [intercalate_cons, List.forall_mem_append]
    refine ⟨hparts.1, fun a ha => ?_⟩
    obtain ⟨next, hnext, hmem⟩ := List.mem_flatMap.1 ha
    rcases List.mem_append.1 hmem with hmem | hmem
    · exact hseparator a hmem
    · exact hparts.2 next hnext a hmem

end Joining

end ErrorPages
