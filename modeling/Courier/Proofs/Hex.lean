import Courier.Hex
import Courier.Proofs.Text

/-! Bytes that are written in hexadecimal are read back. -/
namespace Courier.Hex

theorem digitValue?_digit {n : Nat} (h : n < 16) : digitValue? (digit n).toNat = some n := by
  revert n
  decide

/-- Digits are ASCII characters, no blanks, and none of the two marks of hexadecimal text. -/
theorem digit_plain {n : Nat} (h : n < 16) :
    (digit n).toNat < 128 ∧ Text.isBlank (digit n) = false ∧ digit n ≠ 'x' ∧ digit n ≠ 'X' := by
  revert n
  decide

theorem halves_lt (b : UInt8) : b.toNat / 16 < 16 ∧ b.toNat % 16 < 16 := by
  have := b.toNat_lt
  omega

theorem encode_plain (bytes : List UInt8) :
    ∀ c ∈ encode bytes, c.toNat < 128 ∧ Text.isBlank c = false ∧ c ≠ 'x' ∧ c ≠ 'X' := by
  induction bytes with
  | nil => simp [encode]
  | cons b rest ih =>
    obtain ⟨hhigh, hlow⟩ := halves_lt b
    simp only [encode, List.forall_mem_cons]
    exact ⟨digit_plain hhigh, digit_plain hlow, ih⟩

@[simp] theorem length_encode (bytes : List UInt8) : (encode bytes).length = 2 * bytes.length := by
  induction bytes with
  | nil => rfl
  | cons b rest ih =>
    simp only [encode, List.length_cons, ih]
    omega

/-- Nothing is skipped where none of the two marks occurs. -/
theorem body_eq_self {s : List UInt8} (hx : 120 ∉ s) (hX : 88 ∉ s) : body s = s := by
  unfold body
  split <;> simp_all

theorem pairs_map_encode (bytes : List UInt8) (position : Nat) :
    pairs position ((encode bytes).map fun c => UInt8.ofNat c.toNat) = .ok bytes := by
  induction bytes generalizing position with
  | nil => rfl
  | cons b rest ih =>
    obtain ⟨hhigh, hlow⟩ := halves_lt b
    have hoctet {n : Nat} (h : n < 16) := Text.toNat_ofNat_of_ascii (digit_plain h).1
    have hsum : 16 * (b.toNat / 16) + b.toNat % 16 = b.toNat := Nat.div_add_mod _ _
    simp only [encode, List.map_cons, pairs, hoctet hhigh, hoctet hlow, digitValue?_digit hhigh,
      digitValue?_digit hlow, ih, hsum, UInt8.ofNat_toNat]
    rfl

theorem decode_encode (bytes : List UInt8) : decode (encode bytes) = .ok bytes := by
  have hplain := encode_plain bytes
  -- A mark among the bytes would be one among the characters.
  have hmark {m : Char} (hlt : m.toNat < 128) (hm : m ∉ encode bytes) :
      UInt8.ofNat m.toNat ∉ (encode bytes).map fun c => UInt8.ofNat c.toNat := by
    intro hmem
    obtain ⟨c, hc, heq⟩ := List.mem_map.1 hmem
    have hnat := congrArg UInt8.toNat heq
    rw [Text.toNat_ofNat_of_ascii (hplain c hc).1, Text.toNat_ofNat_of_ascii hlt] at hnat
    exact hm (Char.toNat_inj.1 hnat ▸ hc)
  have hx := hmark (m := 'x') (by decide) fun h => (hplain _ h).2.2.1 rfl
  have hX := hmark (m := 'X') (by decide) fun h => (hplain _ h).2.2.2 rfl
  unfold decode decodeBytes
  rw [Text.toList_toUTF8_of_ascii fun c hc => (hplain c hc).1, body_eq_self hx hX]
  simp [pairs_map_encode]

end Courier.Hex
