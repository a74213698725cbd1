/-! Blank characters and trimming. `isBlank` is the Unicode property White_Space, which is larger
than `Char.isWhitespace`. -/

namespace ErrorPages.Text

def isBlank (c : Char) : Bool :=
  let n := c.toNat
  (0x09 ≤ n && n ≤ 0x0D) || n == 0x20 || n == 0x85 || n == 0xA0 || n == 0x1680 ||
  (0x2000 ≤ n && n ≤ 0x200A) || n == 0x2028 || n == 0x2029 || n == 0x202F || n == 0x205F ||
  n == 0x3000

def trimStart (cs : List Char) : List Char := cs.dropWhile isBlank

/-- Drops the blank characters at both ends. -/
def trim (cs : List Char) : List Char := (trimStart (trimStart cs).reverse).reverse

theorem trim_nil : trim [] = [] := rfl

theorem exists_trim_cons {c : Char} (h : isBlank c = false) (cs : List Char) :
    ∃ rest, trim (c :: cs) = c :: rest := by
  have hstart : trimStart (c :: cs) = c :: cs := List.dropWhile_cons_of_neg (by simp [h])
  have hend : ∃ rest, trimStart (cs.reverse ++ [c]) = rest ++ [c] := by
    induction cs.reverse with
    | nil => exact ⟨[], List.dropWhile_cons_of_neg (by simp [h])⟩
    | cons d ds ih =>
      by_cases hd : isBlank d = true
      · obtain ⟨rest, hrest⟩ := ih
        exact ⟨rest, (List.dropWhile_cons_of_pos hd).trans hrest⟩
      · exact ⟨d :: ds, List.dropWhile_cons_of_neg hd⟩
  obtain ⟨rest, hrest⟩ := hend
  refine ⟨rest.reverse, ?_⟩
  rw [trim, hstart, List.reverse_cons, hrest, List.reverse_append]
  rfl

theorem trim_eq_nil_iff {cs : List Char} : trim cs = [] ↔ ∀ c ∈ cs, isBlank c := by
  induction cs with
  | nil => simp [trim_nil]
  | cons c cs ih =>
    by_cases h : isBlank c = true
    · have hstart : trimStart (c :: cs) = trimStart cs := List.dropWhile_cons_of_pos h
      have htrim : trim (c :: cs) = trim cs := by rw [trim, hstart, trim]
      simp [htrim, ih, h]
    · obtain ⟨rest, hrest⟩ := exists_trim_cons (by simpa using h) cs
      simp [hrest, h]

end ErrorPages.Text
