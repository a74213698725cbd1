/-! Reading bytes as UTF-8 when they may not be. Every maximal run of bytes that begins a character
but does not finish it is read as one U+FFFD, so reading never fails. -/

namespace ErrorPages.Text

/-- What a first byte announces: how many bytes follow, the range of the next one, and the bits the
first byte brings. -/
structure Lead where
  more : Nat
  low : UInt8
  high : UInt8
  bits : Nat
deriving DecidableEq

def Lead.ofByte? (b : UInt8) : Option Lead :=
  if b < 0xC2 then none
  else if b < 0xE0 then some ⟨1, 0x80, 0xBF, b.toNat - 0xC0⟩
  else if b = 0xE0 then some ⟨2, 0xA0, 0xBF, 0⟩
  else if b = 0xED then some ⟨2, 0x80, 0x9F, 0x0D⟩
  else if b < 0xF0 then some ⟨2, 0x80, 0xBF, b.toNat - 0xE0⟩
  else if b = 0xF0 then some ⟨3, 0x90, 0xBF, 0⟩
  else if b < 0xF4 then some ⟨3, 0x80, 0xBF, b.toNat - 0xF0⟩
  else if b = 0xF4 then some ⟨3, 0x80, 0x8F, 4⟩
  else none

/-- Reads the bytes that must follow a first byte. The rest begins at the first byte that does not
fit. -/
def followers : Nat → UInt8 → UInt8 → Nat → List UInt8 → Option Nat × List UInt8
  | 0, _, _, bits, bytes => (some bits, bytes)
  | _ + 1, _, _, _, [] => (none, [])
  | more + 1, low, high, bits, b :: rest =>
    if low ≤ b ∧ b ≤ high then followers more 0x80 0xBF (bits * 64 + (b.toNat - 0x80)) rest
    else (none, b :: rest)

theorem length_followers (more : Nat) (low high : UInt8) (bits : Nat) (bytes : List UInt8) :
    (followers more low high bits bytes).2.length ≤ bytes.length := by
  induction more generalizing low high bits bytes with
  | zero => simp [followers]
  | succ more ih =>
    cases bytes with
    | nil => simp [followers]
    | cons b rest =>
      simp only [followers]
      split
      · exact Nat.le_succ_of_le (ih ..)
      · simp

def decodeLossy : List UInt8 → List Char
  | [] => []
  | b :: rest =>
    if b < 0x80 then Char.ofNat b.toNat :: decodeLossy rest
    else match Lead.ofByte? b with
      | none => '\uFFFD' :: decodeLossy rest
      | some lead =>
        have := length_followers lead.more lead.low lead.high lead.bits rest
        let read := followers lead.more lead.low lead.high lead.bits rest
        (read.1.elim '\uFFFD' Char.ofNat) :: decodeLossy read.2
termination_by bytes => bytes.length
decreasing_by all_goals simp_wf <;> omega

end ErrorPages.Text
