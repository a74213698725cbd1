/-! Values under names, kept by strictly increasing name. Each name stands once, so two maps with
the same values are the same map; `get?_insert` and `get?_extend` say what later values do to
earlier ones. -/

namespace ErrorPages

variable {α : Type}

def insertNamed (name : String) (value : α) : List (String × α) → List (String × α)
  | [] => [(name, value)]
  | (n, v) :: rest =>
    if name < n then (name, value) :: (n, v) :: rest
    else if name = n then (name, value) :: rest
    else (n, v) :: insertNamed name value rest

theorem mem_insertNamed {name : String} {value : α} {entries : List (String × α)}
    {p : String × α} (h : p ∈ insertNamed name value entries) :
    p = (name, value) ∨ p ∈ entries := by
  induction entries with
  | nil => simpa [insertNamed] using h
  | cons q rest ih =>
    obtain ⟨n, v⟩ := q
    simp only [insertNamed] at h
    split at h
    · simpa using h
    · split at h
      · rcases List.mem_cons.1 h with h | h
        · exact .inl h
        · exact .inr (List.mem_cons_of_mem _ h)
      · rcases List.mem_cons.1 h with h | h
        · exact .inr (h ▸ List.mem_cons_self)
        · exact (ih h).imp id (List.mem_cons_of_mem _)

theorem pairwise_insertNamed (name : String) (value : α) {entries : List (String × α)}
    (h : entries.Pairwise (·.1 < ·.1)) : (insertNamed name value entries).Pairwise (·.1 < ·.1) := by
  induction entries with
  | nil => simp [insertNamed]
  | cons q rest ih =>
    obtain ⟨n, v⟩ := q
    have hq := List.pairwise_cons.1 h
    simp only [insertNamed]
    split
    · next hlt =>
      refine List.pairwise_cons.2 ⟨fun p hp => ?_, h⟩
      rcases List.mem_cons.1 hp with rfl | hp
      · exact hlt
      · exact String.lt_trans hlt (hq.1 p hp)
    · split
      · next heq => exact List.pairwise_cons.2 ⟨fun p hp => heq ▸ hq.1 p hp, hq.2⟩
      · next hlt hne =>
        refine List.pairwise_cons.2 ⟨fun p hp => ?_, ih hq.2⟩
        rcases mem_insertNamed hp with rfl | hp
        · exact (Std.lt_trichotomy name n).resolve_left hlt |>.resolve_left hne
        · exact hq.1 p hp

theorem find?_insertNamed (name : String) (value : α) (entries : List (String × α))
    (other : String) :
    (insertNamed name value entries).find? (·.1 = other) =
      if name = other then some (name, value) else entries.find? (·.1 = other) := by
  induction entries with
  | nil => by_cases h : name = other <;> simp [insertNamed, h]
  | cons q rest ih =>
    obtain ⟨n, v⟩ := q
    simp only [insertNamed]
    by_cases h : name = other
    · subst h
      split
      · simp
      · split
        · simp
        · next hne => simp [Ne.symm hne, ih]
    · split
      · simp [h]
      · split
        · next heq => subst heq; simp [h]
        · simp only [List.find?_cons, ih, if_neg h]

structure Named (α : Type) where
  entries : List (String × α)
  increasing : entries.Pairwise (·.1 < ·.1)

namespace Named

def empty : Named α := ⟨[], .nil⟩

instance : Inhabited (Named α) := ⟨empty⟩

def insert (map : Named α) (name : String) (value : α) : Named α :=
  ⟨insertNamed name value map.entries, pairwise_insertNamed name value map.increasing⟩

/-- Adds values in the given order: of several values for one name the last stays. -/
def extend (map : Named α) (more : List (String × α)) : Named α :=
  more.foldl (fun map entry => map.insert entry.1 entry.2) map

def ofList (entries : List (String × α)) : Named α := empty.extend entries

def get? (map : Named α) (name : String) : Option α :=
  (map.entries.find? (·.1 = name)).map (·.2)

def contains (map : Named α) (name : String) : Bool := (map.get? name).isSome

def size (map : Named α) : Nat := map.entries.length

def isEmpty (map : Named α) : Bool := map.entries.isEmpty

@[simp] theorem get?_empty (name : String) : (empty : Named α).get? name = none := rfl

theorem get?_insert (map : Named α) (name other : String) (value : α) :
    (map.insert name value).get? other = if name = other then some value else map.get? other := by
  simp only [get?, insert, find?_insertNamed]
  split <;> rfl

theorem get?_extend (map : Named α) (more : List (String × α)) (other : String) :
    (map.extend more).get? other =
      ((more.reverse.find? (·.1 = other)).map (·.2)).or (map.get? other) := by
  induction more generalizing map with
  | nil => simp [extend]
  | cons p rest ih =>
    rw [extend, List.foldl_cons, ← extend, ih, get?_insert, List.reverse_cons, List.find?_append]
    by_cases h : p.1 = other <;> cases rest.reverse.find? (·.1 = other) <;> simp [h]

end Named

end ErrorPages
