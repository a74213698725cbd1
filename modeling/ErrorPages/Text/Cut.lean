/-! Cuts of a text at byte positions of its UTF-8 form. There is no cut inside a character, and none
behind the end: the lemmas say that a text comes apart where its parts were joined, that its parts
join to the text, and that the boundaries between characters are the positions at which it can be cut. -/

namespace ErrorPages.Text

/-- How many bytes a text takes. -/
def byteSize : List Char → Nat
  | [] => 0
  | c :: rest => c.utf8Size + byteSize rest

def dropBytes? : Nat → List Char → Option (List Char)
  | 0, cs => some cs
  | _ + 1, [] => none
  | n + 1, c :: rest => if c.utf8Size ≤ n + 1 then dropBytes? (n + 1 - c.utf8Size) rest else none

def takeBytes? : Nat → List Char → Option (List Char)
  | 0, _ => some []
  | _ + 1, [] => none
  | n + 1, c :: rest =>
    if c.utf8Size ≤ n + 1 then (takeBytes? (n + 1 - c.utf8Size) rest).map (c :: ·) else none

/-- The text between two byte positions. -/
def slice? (start stop : Nat) (cs : List Char) : Option (List Char) :=
  (dropBytes? start cs).bind (takeBytes? (stop - start))

/-- The first byte position at which a text goes on with this part. -/
def find? (part : List Char) : List Char → Option Nat
  | [] => if part.isEmpty then some 0 else none
  | c :: rest =>
    if part.isPrefixOf (c :: rest) then some 0 else (find? part rest).map (c.utf8Size + ·)

/-- A byte position of a text, not behind its end and not inside a character. -/
def IsBoundary (n : Nat) (cs : List Char) : Prop :=
  (⟨n⟩ : String.Pos.Raw).IsValid (String.ofList cs)

theorem byteSize_append (a b : List Char) : byteSize (a ++ b) = byteSize a + byteSize b := by
  induction a with
  | nil => simp [byteSize]
  | cons c a ih => rw [List.cons_append, byteSize, byteSize, ih, Nat.add_assoc]

theorem byteSize_eq_utf8ByteSize (cs : List Char) :
    byteSize cs = (String.ofList cs).utf8ByteSize := by
  induction cs with
  | nil => simp [byteSize]
  | cons c cs ih =>
    rw [byteSize, ih, String.ofList_cons, String.utf8ByteSize_append, String.utf8ByteSize_singleton]

theorem dropBytes?_cons (c : Char) (n : Nat) (rest : List Char) :
    dropBytes? (c.utf8Size + n) (c :: rest) = dropBytes? n rest := by
  have h := c.utf8Size_pos
  obtain ⟨k, hk⟩ : ∃ k, c.utf8Size + n = k + 1 := ⟨c.utf8Size + n - 1, by omega⟩
  rw [hk, dropBytes?, ← hk, if_pos (by omega), Nat.add_sub_cancel_left]

theorem takeBytes?_cons (c : Char) (n : Nat) (rest : List Char) :
    takeBytes? (c.utf8Size + n) (c :: rest) = (takeBytes? n rest).map (c :: ·) := by
  have h := c.utf8Size_pos
  obtain ⟨k, hk⟩ : ∃ k, c.utf8Size + n = k + 1 := ⟨c.utf8Size + n - 1, by omega⟩
  rw [hk, takeBytes?, ← hk, if_pos (by omega), Nat.add_sub_cancel_left]

theorem dropBytes?_add_append (front back : List Char) (n : Nat) :
    dropBytes? (byteSize front + n) (front ++ back) = dropBytes? n back := by
  induction front with
  | nil => rw [byteSize, Nat.zero_add, List.nil_append]
  | cons c rest ih => rw [byteSize, List.cons_append, Nat.add_assoc, dropBytes?_cons, ih]

theorem dropBytes?_append (front back : List Char) :
    dropBytes? (byteSize front) (front ++ back) = some back := by
  rw [← Nat.add_zero (byteSize front), dropBytes?_add_append, dropBytes?]

theorem takeBytes?_append (front back : List Char) :
    takeBytes? (byteSize front) (front ++ back) = some front := by
  induction front with
  | nil => simp [byteSize, takeBytes?]
  | cons c rest ih => rw [byteSize, List.cons_append, takeBytes?_cons, ih, Option.map_some]

theorem dropBytes?_eq_some_iff {n : Nat} {cs back : List Char} :
    dropBytes? n cs = some back ↔ ∃ front, cs = front ++ back ∧ n = byteSize front := by
  constructor
  · intro h
    induction cs generalizing n with
    | nil =>
      cases n with
      | zero => exact ⟨[], Option.some.inj h, rfl⟩
      | succ n => cases h
    | cons c cs ih =>
      cases n with
      | zero => exact ⟨[], Option.some.inj h, rfl⟩
      | succ n =>
        rw [dropBytes?] at h
        split at h
        · obtain ⟨front, rfl, hn⟩ := ih h
          refine ⟨c :: front, rfl, ?_⟩
          rw [byteSize]
          omega
        · cases h
  · rintro ⟨front, rfl, rfl⟩
    exact dropBytes?_append front back

/-- What is cut off behind a first cut is cut off at the sum of the two positions. -/
theorem dropBytes?_add {m : Nat} {cs rest : List Char} (h : dropBytes? m cs = some rest) (n : Nat) :
    dropBytes? (m + n) cs = dropBytes? n rest := by
  obtain ⟨front, rfl, rfl⟩ := dropBytes?_eq_some_iff.1 h
  exact dropBytes?_add_append front rest n

theorem append_of_takeBytes? {n : Nat} {cs front back : List Char}
    (ht : takeBytes? n cs = some front) (hd : dropBytes? n cs = some back) :
    cs = front ++ back ∧ n = byteSize front := by
  obtain ⟨taken, rfl, rfl⟩ := dropBytes?_eq_some_iff.1 hd
  rw [takeBytes?_append] at ht
  obtain rfl := Option.some.inj ht
  exact ⟨rfl, rfl⟩

theorem isBoundary_iff {n : Nat} {cs : List Char} :
    IsBoundary n cs ↔ ∃ front back, cs = front ++ back ∧ n = byteSize front := by
  rw [IsBoundary, String.Pos.Raw.isValid_iff_exists_append]
  constructor
  · rintro ⟨front, back, hcs, hn⟩
    refine ⟨front.toList, back.toList, ?_, ?_⟩
    · rw [← String.toList_append, ← hcs, String.toList_ofList]
    · rw [byteSize_eq_utf8ByteSize, String.ofList_toList]
      exact congrArg String.Pos.Raw.byteIdx hn
  · rintro ⟨front, back, rfl, rfl⟩
    refine ⟨String.ofList front, String.ofList back, String.ofList_append, ?_⟩
    rw [byteSize_eq_utf8ByteSize]
    rfl

/-- A text can be cut at its boundaries, and nowhere else. -/
theorem isSome_dropBytes?_iff {n : Nat} {cs : List Char} :
    (dropBytes? n cs).isSome ↔ IsBoundary n cs := by
  simp only [Option.isSome_iff_exists, dropBytes?_eq_some_iff, isBoundary_iff]
  exact exists_comm

theorem isBoundary_of_dropBytes? {n : Nat} {cs back : List Char}
    (h : dropBytes? n cs = some back) : IsBoundary n cs :=
  isSome_dropBytes?_iff.1 (Option.isSome_of_eq_some h)

end ErrorPages.Text
