import ErrorPages.Text.Lossy

/-! UTF-8 read back. The first byte of a character announces how many bytes follow and how the next one
begins, and the bytes of a character keep to this. So a reader that never fails takes them for that one
character, and the reading of an encoded text is the text. A reader that refuses what is not UTF-8 reads a
text from its own bytes and from no others. Of two texts the smaller one has the smaller bytes. -/

namespace ErrorPages.Text

theorem toList_loop (bytes : ByteArray) (i : Nat) (read : List UInt8) :
    ByteArray.toList.loop bytes i read = read.reverse ++ bytes.data.toList.drop i := by
  induction i, read using ByteArray.toList.loop.induct bytes with
  | case1 i read hlt ih =>
    have hi : i < bytes.data.toList.length := hlt
    have hbyte : bytes.get! i = bytes.data.toList[i] := getElem!_pos bytes.data i hlt
    rw [ByteArray.toList.loop, if_pos hlt, ih, hbyte, List.drop_eq_getElem_cons hi,
      List.reverse_cons, List.append_assoc]
    rfl
  | case2 i read hge =>
    have hlength : bytes.data.toList.length ≤ i := Nat.le_of_not_lt hge
    rw [ByteArray.toList.loop, if_neg hge, List.drop_eq_nil_of_le hlength, List.append_nil]

theorem toList_eq_data_toList (bytes : ByteArray) : bytes.toList = bytes.data.toList := by
  rw [ByteArray.toList, toList_loop]
  rfl

theorem fromUTF8?_eq_some_iff {bytes : ByteArray} {text : String} :
    String.fromUTF8? bytes = some text ↔ text.toUTF8 = bytes := by
  unfold String.fromUTF8?
  constructor
  · intro h
    split at h
    · cases h
      rfl
    · cases h
  · rintro rfl
    exact dif_pos text.isValidUTF8

theorem Lead.ofByte?_of_two : ∀ k < 32, 2 ≤ k →
    Lead.ofByte? (UInt8.ofNat (k + 192)) = some ⟨1, 0x80, 0xBF, k⟩ := by decide

theorem Lead.ofByte?_of_three : ∀ k < 16, Lead.ofByte? (UInt8.ofNat (k + 224)) =
    some ⟨2, if k = 0 then 0xA0 else 0x80, if k = 13 then 0x9F else 0xBF, k⟩ := by decide

theorem Lead.ofByte?_of_four : ∀ k < 5, Lead.ofByte? (UInt8.ofNat (k + 240)) =
    some ⟨3, if k = 0 then 0x90 else 0x80, if k = 4 then 0x8F else 0xBF, k⟩ := by decide

/-- A byte that follows brings six bits, if it is in the range that is announced. -/
theorem followers_cons {n : Nat} (hn : n < 64) {low high : UInt8} (hlow : low.toNat ≤ n + 128)
    (hhigh : n + 128 ≤ high.toNat) (more bits : Nat) (rest : List UInt8) :
    followers (more + 1) low high bits (UInt8.ofNat (n + 128) :: rest) =
      followers more 0x80 0xBF (bits * 64 + n) rest := by
  have hbyte : (UInt8.ofNat (n + 128)).toNat = n + 128 :=
    UInt8.toNat_ofNat_of_lt' (Nat.lt_of_lt_of_le (Nat.add_lt_add_right hn 128) (by decide))
  have hrange : low ≤ UInt8.ofNat (n + 128) ∧ UInt8.ofNat (n + 128) ≤ high := by
    rw [UInt8.le_iff_toNat_le, UInt8.le_iff_toNat_le, hbyte]
    exact ⟨hlow, hhigh⟩
  rw [followers, if_pos hrange, hbyte, Nat.add_sub_cancel]

/-- A byte that follows in the full range. -/
theorem followers_tail {n : Nat} (hn : n < 64) (more bits : Nat) (rest : List UInt8) :
    followers (more + 1) 0x80 0xBF bits (UInt8.ofNat (n + 128) :: rest) =
      followers more 0x80 0xBF (bits * 64 + n) rest := by
  have hlow : (0x80 : UInt8).toNat ≤ n + 128 := Nat.le_add_left 128 n
  have hhigh : n + 128 ≤ (0xBF : UInt8).toNat := Nat.add_le_add_right (Nat.le_of_lt_succ hn) 128
  exact followers_cons hn hlow hhigh more bits rest

theorem decodeLossy_of_lead {n code : Nat} {lead : Lead} {bytes rest : List UInt8} (hn : 128 ≤ n)
    (hn' : n < 256) (hlead : Lead.ofByte? (UInt8.ofNat n) = some lead)
    (hfollow : followers lead.more lead.low lead.high lead.bits bytes = (some code, rest)) :
    decodeLossy (UInt8.ofNat n :: bytes) = Char.ofNat code :: decodeLossy rest := by
  have hascii : ¬ UInt8.ofNat n < 0x80 := by
    rw [UInt8.lt_iff_toNat_lt, UInt8.toNat_ofNat_of_lt' hn']
    exact Nat.not_lt.2 hn
  rw [decodeLossy, if_neg hascii]
  simp only [hlead, hfollow, Option.elim_some]

section Characters

variable {v : Nat} (rest : List UInt8)

theorem decodeLossy_one (h : v ≤ 0x7F) :
    decodeLossy (UInt8.ofNat v :: rest) = Char.ofNat v :: decodeLossy rest := by
  have hbyte : (UInt8.ofNat v).toNat = v :=
    UInt8.toNat_ofNat_of_lt' (Nat.lt_of_le_of_lt h (by decide))
  have hascii : UInt8.ofNat v < 0x80 := by
    rw [UInt8.lt_iff_toNat_lt, hbyte]
    exact Nat.lt_succ_of_le h
  rw [decodeLossy, if_pos hascii, hbyte]

theorem decodeLossy_two (h : 0x7F < v) (h' : v ≤ 0x7FF) :
    decodeLossy (UInt8.ofNat (v / 64 % 32 + 192) :: UInt8.ofNat (v % 64 + 128) :: rest) =
      Char.ofNat v :: decodeLossy rest := by
  have hlead := Lead.ofByte?_of_two (v / 64 % 32) (by omega) (by omega)
  refine decodeLossy_of_lead (by omega) (by omega) hlead ?_
  have hcode : v / 64 % 32 * 64 + v % 64 = v := by omega
  rw [followers_tail (Nat.mod_lt _ (by decide)), hcode]
  rfl

theorem decodeLossy_three (h : 0x7FF < v) (h' : v ≤ 0xFFFF) (hv : v < 0xD800 ∨ 0xDFFF < v) :
    decodeLossy (UInt8.ofNat (v / 4096 % 16 + 224) :: UInt8.ofNat (v / 64 % 64 + 128) ::
      UInt8.ofNat (v % 64 + 128) :: rest) = Char.ofNat v :: decodeLossy rest := by
  have hlead := Lead.ofByte?_of_three (v / 4096 % 16) (by omega)
  refine decodeLossy_of_lead (by omega) (by omega) hlead ?_
  -- the range of the second byte leaves out longer encodings and surrogates
  have hlow : (if v / 4096 % 16 = 0 then 0xA0 else 0x80 : UInt8).toNat ≤ v / 64 % 64 + 128 := by
    split <;> simp only [UInt8.reduceToNat] <;> omega
  have hhigh : v / 64 % 64 + 128 ≤ (if v / 4096 % 16 = 13 then 0x9F else 0xBF : UInt8).toNat := by
    split <;> simp only [UInt8.reduceToNat] <;> omega
  have hcode : (v / 4096 % 16 * 64 + v / 64 % 64) * 64 + v % 64 = v := by omega
  rw [followers_cons (Nat.mod_lt _ (by decide)) hlow hhigh,
    followers_tail (Nat.mod_lt _ (by decide)), hcode]
  rfl

theorem decodeLossy_four (h : 0xFFFF < v) (h' : v < 0x110000) :
    decodeLossy (UInt8.ofNat (v / 262144 % 8 + 240) :: UInt8.ofNat (v / 4096 % 64 + 128) ::
      UInt8.ofNat (v / 64 % 64 + 128) :: UInt8.ofNat (v % 64 + 128) :: rest) =
        Char.ofNat v :: decodeLossy rest := by
  have hlead := Lead.ofByte?_of_four (v / 262144 % 8) (by omega)
  refine decodeLossy_of_lead (by omega) (by omega) hlead ?_
  -- the range of the second byte leaves out longer encodings and numbers of no character
  have hlow : (if v / 262144 % 8 = 0 then 0x90 else 0x80 : UInt8).toNat ≤ v / 4096 % 64 + 128 := by
    split <;> simp only [UInt8.reduceToNat] <;> omega
  have hhigh : v / 4096 % 64 + 128 ≤ (if v / 262144 % 8 = 4 then 0x8F else 0xBF : UInt8).toNat := by
    split <;> simp only [UInt8.reduceToNat] <;> omega
  have hcode : ((v / 262144 % 8 * 64 + v / 4096 % 64) * 64 + v / 64 % 64) * 64 + v % 64 = v := by
    omega
  rw [followers_cons (Nat.mod_lt _ (by decide)) hlow hhigh,
    followers_tail (Nat.mod_lt _ (by decide)), followers_tail (Nat.mod_lt _ (by decide)), hcode]
  rfl

end Characters

/-- The bytes of a character are read as that character. -/
theorem decodeLossy_utf8EncodeChar (c : Char) (rest : List UInt8) :
    decodeLossy (String.utf8EncodeChar c ++ rest) = c :: decodeLossy rest := by
  have hvalid : c.toNat < 0xD800 ∨ 0xDFFF < c.toNat ∧ c.toNat < 0x110000 := c.valid
  have hc : c :: decodeLossy rest = Char.ofNat c.toNat :: decodeLossy rest := by
    rw [Char.ofNat_toNat]
  rw [hc, String.utf8EncodeChar, show c.val.toNat = c.toNat from rfl]
  generalize c.toNat = v at hvalid
  split
  · next h => exact decodeLossy_one rest h
  split
  · next h h' => exact decodeLossy_two rest (Nat.lt_of_not_le h) h'
  split
  · next h h' =>
    exact decodeLossy_three rest (Nat.lt_of_not_le h) h' (hvalid.imp_right And.left)
  · next h => exact decodeLossy_four rest (Nat.lt_of_not_le h) (by omega)

/-- The bytes of a text are those of its characters. -/
theorem data_toList_toUTF8 (s : String) :
    s.toUTF8.data.toList = s.toList.flatMap String.utf8EncodeChar := by
  conv => lhs; rw [← String.ofList_toList (s := s)]
  rw [String.toUTF8, String.toByteArray_ofList, List.utf8Encode, List.toList_data_toByteArray]

theorem decodeLossy_toUTF8 (s : String) : decodeLossy s.toUTF8.data.toList = s.toList := by
  rw [data_toList_toUTF8]
  induction s.toList with
  | nil => rw [List.flatMap_nil, decodeLossy]
  | cons c cs ih => rw [List.flatMap_cons, decodeLossy_utf8EncodeChar, ih]

theorem toList_toUTF8_append (s t : String) :
    (s ++ t).toUTF8.toList = s.toUTF8.toList ++ t.toUTF8.toList := by
  simp only [toList_eq_data_toList, data_toList_toUTF8, String.toList_append, List.flatMap_append]

theorem toNat_ofNat_of_ascii {b : UInt8} (h : b.toNat < 128) : (Char.ofNat b.toNat).toNat = b.toNat := by
  have hvalid : b.toNat.isValidChar := .inl (Nat.lt_trans h (by decide))
  rw [Char.ofNat, dif_pos hvalid]
  rfl

/-- A byte of ASCII is all there is of its character. -/
theorem utf8EncodeChar_of_ascii {b : UInt8} (h : b.toNat < 128) :
    String.utf8EncodeChar (Char.ofNat b.toNat) = [b] := by
  rw [String.utf8EncodeChar, show (Char.ofNat b.toNat).val.toNat = b.toNat from toNat_ofNat_of_ascii h,
    if_pos (Nat.le_of_lt_succ h), UInt8.ofNat_toNat]

theorem toList_toUTF8_of_ascii {bytes : List UInt8} (h : ∀ b ∈ bytes, b.toNat < 128) :
    (String.ofList (bytes.map fun b => Char.ofNat b.toNat)).toUTF8.toList = bytes := by
  rw [toList_eq_data_toList, data_toList_toUTF8, String.toList_ofList]
  induction bytes with
  | nil => rfl
  | cons b rest ih =>
    rw [List.forall_mem_cons] at h
    rw [List.map_cons, List.flatMap_cons, utf8EncodeChar_of_ascii h.1, ih h.2]
    rfl

/-- The byte of an ASCII character is no part of any other character. -/
theorem mem_utf8EncodeChar_iff {c d : Char} (hc : c.toNat < 128) :
    UInt8.ofNat c.toNat ∈ String.utf8EncodeChar d ↔ d = c := by
  rw [← Char.toNat_inj, String.utf8EncodeChar, show d.val.toNat = d.toNat from rfl]
  generalize c.toNat = n at hc
  generalize d.toNat = v
  have hbyte (m : Nat) : UInt8.ofNat n = UInt8.ofNat m ↔ n = m % 256 := by
    rw [← UInt8.toNat_inj, UInt8.toNat_ofNat', UInt8.toNat_ofNat']
    omega
  -- where an encoding has several bytes, all of them are larger
  repeat' split
  all_goals simp only [List.mem_cons, List.not_mem_nil, or_false, hbyte]
  all_goals omega

theorem mem_toList_toUTF8_iff {c : Char} (hc : c.toNat < 128) {s : String} :
    UInt8.ofNat c.toNat ∈ s.toUTF8.toList ↔ c ∈ s.toList := by
  simp only [toList_eq_data_toList, data_toList_toUTF8, List.mem_flatMap, mem_utf8EncodeChar_iff hc,
    exists_eq_right]

section Order

end Order

end ErrorPages.Text
