import ErrorPages.Template

/-! The first two braces that stand next to each other. `splitAtPair` cuts a text there: what it
puts in front holds no such pair, not even with the first brace of the pair behind it. -/

namespace ErrorPages.Template

/-- Nowhere do two `c` stand next to each other. -/
def NoPair (c : Char) (cs : List Char) : Prop := ¬ [c, c] <:+: cs

theorem noPair_nil (c : Char) : NoPair c [] := by simp [NoPair]

theorem noPair_cons_iff {c a : Char} {cs : List Char} :
    NoPair c (a :: cs) ↔ ¬ (a = c ∧ cs.head? = some c) ∧ NoPair c cs := by
  unfold NoPair
  rw [List.infix_cons_iff, not_or, List.cons_prefix_cons]
  cases cs with
  | nil => simp
  | cons b rest => simp [List.cons_prefix_cons, eq_comm]

theorem splitAtPair_append {c : Char} {before : List Char} (after : List Char)
    (h : NoPair c (before ++ [c])) :
    splitAtPair c (before ++ c :: c :: after) = some (before, after) := by
  induction before with
  | nil => simp [splitAtPair]
  | cons a before ih =>
    rw [List.cons_append, noPair_cons_iff] at h
    -- what follows `a` begins as the literal does, or with the brace that ends it
    obtain ⟨b, rest, hrest⟩ : ∃ b rest, before ++ c :: c :: after = b :: rest := by
      cases before <;> exact ⟨_, _, rfl⟩
    have hb : (before ++ [c]).head? = some b := by
      cases before <;> simp_all
    rw [List.cons_append, hrest, splitAtPair, if_neg (by rw [hb] at h; simpa using h.1), ← hrest,
      ih h.2]
    rfl

theorem splitAtPair_eq_none_iff {c : Char} {cs : List Char} :
    splitAtPair c cs = none ↔ NoPair c cs := by
  induction cs with
  | nil => simp [splitAtPair, noPair_nil]
  | cons a cs ih =>
    rw [noPair_cons_iff, ← ih]
    cases cs with
    | nil => simp [splitAtPair]
    | cons b rest =>
      rw [splitAtPair]
      by_cases h : a = c ∧ b = c <;> simp [h]

theorem noPair_of_splitAtPair {c : Char} {cs before after : List Char}
    (h : splitAtPair c cs = some (before, after)) : NoPair c (before ++ [c]) := by
  induction cs generalizing before with
  | nil => simp [splitAtPair] at h
  | cons a cs ih =>
    cases cs with
    | nil => simp [splitAtPair] at h
    | cons b rest =>
      rw [splitAtPair] at h
      split at h
      · obtain ⟨rfl, rfl⟩ := Prod.mk.inj (Option.some.inj h)
        simp [noPair_cons_iff, noPair_nil]
      · next hne =>
        obtain ⟨⟨p, q⟩, hp, heq⟩ := Option.map_eq_some_iff.1 h
        obtain ⟨rfl, rfl⟩ := Prod.mk.inj heq
        rw [List.cons_append, noPair_cons_iff]
        refine ⟨?_, ih hp⟩
        have hcut := eq_of_splitAtPair hp
        cases p with
        | nil => simp_all
        | cons p₀ p => simp_all

theorem splitAtPair_eq_some_iff {c : Char} {cs before after : List Char} :
    splitAtPair c cs = some (before, after) ↔
      cs = before ++ c :: c :: after ∧ NoPair c (before ++ [c]) := by
  constructor
  · intro h
    exact ⟨eq_of_splitAtPair h, noPair_of_splitAtPair h⟩
  · rintro ⟨rfl, h⟩
    exact splitAtPair_append after h

theorem NoPair.of_append {c : Char} {a b : List Char} (h : NoPair c (a ++ b)) : NoPair c a :=
  fun ha => h (ha.trans (List.prefix_append a b).isInfix)

theorem not_noPair_append_pair (c : Char) (front rest : List Char) :
    ¬ NoPair c (front ++ c :: c :: rest) := by
  intro h
  exact h ⟨front, rest, by simp⟩

/-- A pair that comes with one more brace has its other brace right before it. -/
theorem NoPair.exists_concat {c : Char} {cs : List Char} (h : NoPair c cs)
    (hc : ¬ NoPair c (cs ++ [c])) : ∃ front, cs = front ++ [c] := by
  obtain ⟨front, back, hcut⟩ := Classical.not_not.1 hc
  rcases List.eq_nil_or_concat back with rfl | ⟨back, d, rfl⟩
  · refine ⟨front, ?_⟩
    have hlast : front ++ [c] ++ [c] = cs ++ [c] := by simpa using hcut
    exact (List.append_cancel_right hlast).symm
  · exfalso
    have hlast : front ++ c :: c :: back ++ [d] = cs ++ [c] := by simpa using hcut
    obtain ⟨rfl, -⟩ := List.append_inj' hlast rfl
    exact not_noPair_append_pair c front back h

instance (c : Char) (cs : List Char) : Decidable (NoPair c cs) :=
  decidable_of_iff (splitAtPair c cs = none) splitAtPair_eq_none_iff

end ErrorPages.Template
