import ErrorPages.Http.Form
import ErrorPages.Http.Uri
import ErrorPages.Proofs.Separator
import ErrorPages.Proofs.Utf8

/-! Forms as they are written. A byte that could be taken for a sign of the form, or that may not stand in a
query, is written in hexadecimal digits, so what is written splits only where it was joined. Every list
of pairs is read back from its form as it was, whatever the texts in it are, and the form is a query. -/

namespace ErrorPages.Form

/-- Letters, digits and four signs are written as they are. -/
def isKept (b : UInt8) : Bool :=
  (0x30 ≤ b && b ≤ 0x39) || (0x41 ≤ b && b ≤ 0x5A) || (0x61 ≤ b && b ≤ 0x7A) ||
  b == 0x2A || b == 0x2D || b == 0x2E || b == 0x5F

/-- A digit in upper case. -/
def hexDigit (n : Nat) : UInt8 := .ofNat (if n < 10 then n + 0x30 else n + 0x37)

def encodeByte (b : UInt8) : List UInt8 :=
  if isKept b then [b]
  else if b = 0x20 then [0x2B]
  else [0x25, hexDigit (b.toNat / 16), hexDigit (b.toNat % 16)]

def encodeText (text : String) : List UInt8 := text.toUTF8.toList.flatMap encodeByte

def encodePair (entry : String × String) : List UInt8 :=
  encodeText entry.1 ++ 0x3D :: encodeText entry.2

def encodeBytes (entries : List (String × String)) : List UInt8 :=
  [0x26].intercalate (entries.map encodePair)

/-- The form of some pairs. -/
def encode (entries : List (String × String)) : String :=
  String.ofList ((encodeBytes entries).map fun b => Char.ofNat b.toNat)

section Bytes

theorem toNat_of_isKept {b : UInt8} (h : isKept b = true) :
    (48 ≤ b.toNat ∧ b.toNat ≤ 57) ∨ (65 ≤ b.toNat ∧ b.toNat ≤ 90) ∨ (97 ≤ b.toNat ∧ b.toNat ≤ 122) ∨
      b.toNat = 42 ∨ b.toNat = 45 ∨ b.toNat = 46 ∨ b.toNat = 95 := by
  simpa [isKept, UInt8.le_iff_toNat_le, ← UInt8.toNat_inj, or_assoc] using h

theorem isKept_hexDigit : ∀ k < 16, isKept (hexDigit k) = true := by decide

theorem digit?_hexDigit : ∀ k < 16, Text.digit? 16 (Char.ofNat (hexDigit k).toNat) = some k := by
  decide

theorem hexByte?_hexDigit (b : UInt8) :
    hexByte? (hexDigit (b.toNat / 16)) (hexDigit (b.toNat % 16)) = some b := by
  have hb : b.toNat < 256 := UInt8.toNat_lt b
  have hvalue : b.toNat / 16 * 16 + b.toNat % 16 = b.toNat := by omega
  rw [hexByte?, digit?_hexDigit _ (by omega), digit?_hexDigit _ (by omega)]
  exact congrArg some ((congrArg UInt8.ofNat hvalue).trans UInt8.ofNat_toNat)

theorem decodeBytes_cons {b : UInt8} (hplus : b ≠ 0x2B) (hpercent : b ≠ 0x25) (rest : List UInt8) :
    decodeBytes (b :: rest) = b :: decodeBytes rest := by
  rw [decodeBytes]
  · exact hplus
  · exact fun _ _ _ h _ => hpercent h

theorem decodeBytes_encodeByte (b : UInt8) (rest : List UInt8) :
    decodeBytes (encodeByte b ++ rest) = b :: decodeBytes rest := by
  unfold encodeByte
  split
  · next hkept =>
    have hsign (n : Nat) (hn : n = 0x2B ∨ n = 0x25) : b.toNat ≠ n := by
      have := toNat_of_isKept hkept
      omega
    exact decodeBytes_cons (fun h => hsign 0x2B (.inl rfl) (congrArg UInt8.toNat h))
      (fun h => hsign 0x25 (.inr rfl) (congrArg UInt8.toNat h)) rest
  split
  · next hspace =>
    subst hspace
    rfl
  · simp only [List.cons_append, List.nil_append, decodeBytes, hexByte?_hexDigit]

theorem decodeBytes_flatMap (bytes : List UInt8) :
    decodeBytes (bytes.flatMap encodeByte) = bytes := by
  induction bytes with
  | nil => rfl
  | cons b rest ih => rw [List.flatMap_cons, decodeBytes_encodeByte, ih]

/-- What a text is written with: what is kept, the plus sign and the percent sign. -/
def IsWritten (b : UInt8) : Prop := isKept b = true ∨ b.toNat = 0x2B ∨ b.toNat = 0x25

theorem isWritten_of_mem_encodeByte {b c : UInt8} (h : c ∈ encodeByte b) : IsWritten c := by
  unfold encodeByte at h
  split at h
  · next hkept =>
    obtain rfl := List.mem_singleton.1 h
    exact .inl hkept
  split at h
  · obtain rfl := List.mem_singleton.1 h
    exact .inr (.inl rfl)
  · have hb : b.toNat < 256 := UInt8.toNat_lt b
    simp only [List.mem_cons, List.not_mem_nil, or_false] at h
    obtain rfl | rfl | rfl := h
    · exact .inr (.inr rfl)
    · exact .inl (isKept_hexDigit _ (by omega))
    · exact .inl (isKept_hexDigit _ (by omega))

end Bytes

section Texts

theorem decode_encodeText (text : String) : decode (encodeText text) = text := by
  rw [decode, encodeText, decodeBytes_flatMap, Text.toList_eq_data_toList, Text.decodeLossy_toUTF8,
    String.ofList_toList]

theorem isWritten_of_mem_encodeText {text : String} {b : UInt8} (h : b ∈ encodeText text) : IsWritten b := by
  obtain ⟨_, -, hb⟩ := List.mem_flatMap.1 h
  exact isWritten_of_mem_encodeByte hb

theorem IsWritten.ne {b : UInt8} (h : IsWritten b) : b ≠ 0x26 ∧ b ≠ 0x3D := by
  simp only [ne_eq, ← UInt8.toNat_inj, UInt8.toNat_ofNat]
  rcases h with hkept | hsign
  · have := toNat_of_isKept hkept
    omega
  · omega

theorem pair_encodePair (entry : String × String) : pair (encodePair entry) = entry := by
  have hname : 0x3D ∉ encodeText entry.1 := fun h => (isWritten_of_mem_encodeText h).ne.2 rfl
  rw [pair, encodePair, takeWhile_append_cons hname, dropWhile_append_cons hname, List.drop_one,
    List.tail_cons, decode_encodeText, decode_encodeText]

theorem not_mem_encodePair (entry : String × String) : 0x26 ∉ encodePair entry := by
  intro h
  rcases List.mem_append.1 h with hname | hrest
  · exact (isWritten_of_mem_encodeText hname).ne.1 rfl
  · rcases List.mem_cons.1 hrest with heq | hvalue
    · exact absurd heq (by decide)
    · exact (isWritten_of_mem_encodeText hvalue).ne.1 rfl

theorem encodePair_ne_nil (entry : String × String) : encodePair entry ≠ [] := by
  simp [encodePair]

end Texts

section Lists

variable (entries : List (String × String))

/-- What a form is written with. -/
def IsForm (b : UInt8) : Prop := IsWritten b ∨ b.toNat = 0x26 ∨ b.toNat = 0x3D

theorem isForm_of_mem_encodePair {entry : String × String} {b : UInt8} (h : b ∈ encodePair entry) :
    IsForm b := by
  rcases List.mem_append.1 h with hname | hrest
  · exact .inl (isWritten_of_mem_encodeText hname)
  · rcases List.mem_cons.1 hrest with rfl | hvalue
    · exact .inr (.inr rfl)
    · exact .inl (isWritten_of_mem_encodeText hvalue)

theorem isForm_of_mem_encodeBytes : ∀ b ∈ encodeBytes entries, IsForm b := by
  refine forall_mem_intercalate (fun b hb => ?_) (List.forall_mem_map.2 fun entry _ b hb => ?_)
  · obtain rfl := List.mem_singleton.1 hb
    exact .inr (.inl rfl)
  · exact isForm_of_mem_encodePair hb

theorem IsForm.toNat_cases {b : UInt8} (h : IsForm b) : 37 ≤ b.toNat ∧ b.toNat ≤ 57 ∨ b.toNat = 61 ∨
    65 ≤ b.toNat ∧ b.toNat ≤ 95 ∨ 97 ≤ b.toNat ∧ b.toNat ≤ 122 := by
  rcases h with (hkept | hsign) | hsign
  · have := toNat_of_isKept hkept
    omega
  · omega
  · omega

theorem IsForm.toNat_lt {b : UInt8} (h : IsForm b) : b.toNat < 128 := by
  have := h.toNat_cases
  omega

theorem toNat_of_mem_encode {c : Char} (h : c ∈ (encode entries).toList) :
    37 ≤ c.toNat ∧ c.toNat ≤ 57 ∨ c.toNat = 61 ∨ 65 ≤ c.toNat ∧ c.toNat ≤ 95 ∨
      97 ≤ c.toNat ∧ c.toNat ≤ 122 := by
  rw [encode, String.toList_ofList] at h
  obtain ⟨b, hb, rfl⟩ := List.mem_map.1 h
  have hform := isForm_of_mem_encodeBytes entries b hb
  rw [Text.toNat_ofNat_of_ascii hform.toNat_lt]
  exact hform.toNat_cases

/-- A form is read as the pairs that it was made of. -/
theorem pairs_encode : pairs (encode entries) = entries := by
  have hbytes : (encode entries).toUTF8.toList = encodeBytes entries :=
    Text.toList_toUTF8_of_ascii fun b hb => (isForm_of_mem_encodeBytes entries b hb).toNat_lt
  have hsplit : ((encodeBytes entries).splitOn 0x26).filter (!·.isEmpty) = entries.map encodePair := by
    by_cases hnil : entries = []
    · subst hnil
      rfl
    · rw [encodeBytes, List.splitOn_intercalate 0x26
          (List.forall_mem_map.2 fun entry _ => not_mem_encodePair entry) (by simpa using hnil),
        List.filter_eq_self]
      exact List.forall_mem_map.2 fun entry _ => by simp [encodePair_ne_nil]
  rw [pairs, hbytes, hsplit, List.map_map]
  exact (List.map_congr_left fun entry _ => pair_encodePair entry).trans (List.map_id entries)

/-- A path that is followed by a form is a target with that form for its query. -/
theorem ofPathAndQuery?_encode {path : List Char} (hpath : ∀ c ∈ path, Uri.isPathChar c = true) :
    Uri.ofPathAndQuery? (path ++ '?' :: (encode entries).toList) =
      some ⟨String.ofList path, some (encode entries)⟩ := by
  have hpathChar {c : Char} (hc : Uri.isPathChar c = false) : c ∉ path := fun hmem => by
    rw [hpath c hmem] at hc
    cases hc
  have hquery : ∀ c ∈ (encode entries).toList, c ≠ '#' ∧ Uri.isQueryChar c = true := by
    intro c hc
    have := toNat_of_mem_encode entries hc
    constructor
    · rintro rfl
      simp at this
    · simp only [Uri.isQueryChar, Bool.or_eq_true, Bool.and_eq_true, beq_iff_eq, decide_eq_true_eq]
      omega
  have htarget : (path ++ '?' :: (encode entries).toList).takeWhile (· != '#') =
      path ++ '?' :: (encode entries).toList := by
    rw [List.takeWhile_eq_self_iff]
    refine bne_of_not_mem fun hmem => ?_
    rcases List.mem_append.1 hmem with hmem | hmem
    · exact hpathChar rfl hmem
    · rcases List.mem_cons.1 hmem with heq | hmem
      · exact absurd heq (by decide)
      · exact (hquery _ hmem).1 rfl
  have hmark : '?' ∉ path := hpathChar rfl
  simp only [Uri.ofPathAndQuery?, htarget, takeWhile_append_cons hmark, dropWhile_append_cons hmark,
    List.all_eq_true.2 hpath, List.all_eq_true.2 fun c hc => (hquery c hc).2, if_true,
    String.ofList_toList]

end Lists

end ErrorPages.Form
