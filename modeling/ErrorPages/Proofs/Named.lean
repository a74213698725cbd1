import ErrorPages.Named

/-! What a map holds. Its entries have names of their own, so each of them can be looked up, and a map
is no more than what is looked up in it. Hence the map of entries with names of their own holds all of
them, whatever the order in which they come. -/

namespace ErrorPages

variable {α : Type}

theorem nodup_of_names_ne {entries : List (String × α)} (h : entries.Pairwise (·.1 ≠ ·.1)) :
    entries.Nodup :=
  h.imp fun hne heq => hne (congrArg Prod.fst heq)

theorem names_ne_reverse {entries : List (String × α)} (h : entries.Pairwise (·.1 ≠ ·.1)) :
    entries.reverse.Pairwise (·.1 ≠ ·.1) := by
  rw [List.pairwise_reverse]
  exact h.imp Ne.symm

theorem find?_map_eq_some_iff {entries : List (String × α)} (h : entries.Pairwise (·.1 ≠ ·.1))
    {name : String} {value : α} :
    (entries.find? (·.1 = name)).map (·.2) = some value ↔ (name, value) ∈ entries := by
  induction entries with
  | nil => simp
  | cons entry rest ih =>
    obtain ⟨hfirst, hrest⟩ := List.pairwise_cons.1 h
    obtain ⟨n, v⟩ := entry
    by_cases hname : n = name
    · subst hname
      -- no other entry has the name of the first
      have hother : (n, value) ∉ rest := fun hmem => hfirst _ hmem rfl
      simp [hother, eq_comm]
    · rw [List.find?_cons_of_neg (by simpa using hname), ih hrest]
      simp [Ne.symm hname]

theorem perm_of_mem_iff {entries entries' : List (String × α)} (h : entries.Pairwise (·.1 ≠ ·.1))
    (h' : entries'.Pairwise (·.1 ≠ ·.1))
    (hmem : ∀ name value, (name, value) ∈ entries ↔ (name, value) ∈ entries') :
    entries.Perm entries' :=
  (List.perm_ext_iff_of_nodup (nodup_of_names_ne h) (nodup_of_names_ne h')).2
    fun entry => hmem entry.1 entry.2

namespace Named

theorem names_ne (map : Named α) : map.entries.Pairwise (·.1 ≠ ·.1) := by
  refine map.increasing.imp ?_
  intro p q hlt heq
  rw [heq] at hlt
  exact String.lt_irrefl _ hlt

theorem mem_entries_iff {map : Named α} {name : String} {value : α} :
    (name, value) ∈ map.entries ↔ map.get? name = some value :=
  (find?_map_eq_some_iff map.names_ne).symm

theorem find?_reverse_entries (map : Named α) (name : String) :
    (map.entries.reverse.find? (·.1 = name)).map (·.2) = map.get? name := by
  refine Option.ext fun value => ?_
  rw [find?_map_eq_some_iff (names_ne_reverse map.names_ne), List.mem_reverse, mem_entries_iff]

section Values

variable {P : α → Prop} {map : Named α} (h : ∀ entry ∈ map.entries, P entry.2)

include h

theorem forall_mem_insert {value : α} (hvalue : P value) (name : String) :
    ∀ entry ∈ (map.insert name value).entries, P entry.2 := by
  intro entry hentry
  rcases mem_insertNamed hentry with rfl | hold
  · exact hvalue
  · exact h entry hold

/-- What holds of all values, and of all that are added, holds of all of them in the end. -/
theorem forall_mem_extend {more : List (String × α)} (hmore : ∀ entry ∈ more, P entry.2) :
    ∀ entry ∈ (map.extend more).entries, P entry.2 := by
  induction more generalizing map with
  | nil => exact h
  | cons first rest ih =>
    rw [List.forall_mem_cons] at hmore
    exact ih (forall_mem_insert h hmore.1 first.1) hmore.2

end Values

/-- Maps with the same values are the same map. -/
theorem ext_get? {a b : Named α} (h : ∀ name, a.get? name = b.get? name) : a = b := by
  have hperm : a.entries.Perm b.entries := by
    refine perm_of_mem_iff a.names_ne b.names_ne fun name value => ?_
    rw [mem_entries_iff, mem_entries_iff, h]
  have hentries : a.entries = b.entries := by
    refine hperm.eq_of_pairwise ?_ a.increasing b.increasing
    intro p q _ _ hpq hqp
    exact absurd (String.lt_trans hpq hqp) (String.lt_irrefl _)
  cases a
  cases b
  cases hentries
  rfl

section Entries

variable {entries : List (String × α)} (h : entries.Pairwise (·.1 ≠ ·.1))

include h

theorem get?_ofList_iff {name : String} {value : α} :
    (ofList entries).get? name = some value ↔ (name, value) ∈ entries := by
  rw [ofList, get?_extend, get?_empty, Option.or_none,
    find?_map_eq_some_iff (names_ne_reverse h), List.mem_reverse]

theorem size_ofList : (ofList entries).size = entries.length := by
  have hperm : (ofList entries).entries.Perm entries := by
    refine perm_of_mem_iff (ofList entries).names_ne h fun name value => ?_
    rw [mem_entries_iff, get?_ofList_iff h]
  exact hperm.length_eq

/-- The order of the entries does not matter. -/
theorem ofList_perm {entries' : List (String × α)} (hperm : entries.Perm entries') :
    ofList entries = ofList entries' := by
  have h' : entries'.Pairwise (·.1 ≠ ·.1) := hperm.pairwise h Ne.symm
  refine ext_get? fun name => Option.ext fun value => ?_
  rw [get?_ofList_iff h, get?_ofList_iff h', hperm.mem_iff]

end Entries

end Named

end ErrorPages
