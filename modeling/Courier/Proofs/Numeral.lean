import Courier.Numeral
import Mathlib.Algebra.Group.Nat.Defs

/-! Decimal text is read back, as a plain numeral and as a wide one. -/
namespace Courier.Numeral

theorem digitBelow?_digitChar {d : Nat} (h : d < 10) : digitBelow? 10 d.digitChar = some d := by
  revert d
  decide

theorem accumulate?_append (radix acc : Nat) (a b : List Char) :
    accumulate? radix acc (a ++ b) =
      (accumulate? radix acc a).bind fun n => accumulate? radix n b := by
  induction a generalizing acc with
  | nil => rfl
  | cons c a ih =>
    simp only [List.cons_append, accumulate?]
    cases digitBelow? radix c with
    | none => rfl
    | some d => exact ih _

theorem accumulate?_decimal (n : Nat) : accumulate? 10 0 (decimal n) = some n := by
  induction n using Nat.strongRecOn with
  | ind n ih =>
    unfold decimal
    rw [Nat.toDigits_eq_if (by decide)]
    split
    case isTrue h => simp [accumulate?, digitBelow?_digitChar h]
    case isFalse h =>
      have hlast := digitBelow?_digitChar (Nat.mod_lt n (by decide : 10 > 0))
      have hfront := ih (n / 10) (Nat.div_lt_self (by omega) (by decide))
      have hsum : 10 * (n / 10) + n % 10 = n := Nat.div_add_mod n 10
      rw [accumulate?_append, ← decimal, hfront]
      simp [accumulate?, hlast, hsum]

theorem decimal_ne_nil (n : Nat) : decimal n ≠ [] := by
  unfold decimal
  exact Nat.toDigits_ne_nil

/-- Decimal text consists of digits. -/
theorem isDigit_of_mem_decimal {n : Nat} {c : Char} (h : c ∈ decimal n) : c.isDigit = true :=
  Nat.isDigit_of_mem_toDigits (by decide) (by decide) h

theorem not_mem_decimal {n : Nat} {c : Char} (h : c.isDigit = false) : c ∉ decimal n := by
  intro hmem
  simp [isDigit_of_mem_decimal hmem] at h

theorem digits?_decimal (n : Nat) : digits? (decimal n) = some n := by
  unfold digits?
  rw [if_neg (by simpa using decimal_ne_nil n), accumulate?_decimal]

theorem unsigned?_decimal (n : Nat) : unsigned? (decimal n) = some n := by
  have hplus : '+' ∉ decimal n := not_mem_decimal (by decide)
  rw [← digits?_decimal n]
  unfold unsigned?
  split
  case h_1 heq => simp [heq] at hplus
  case h_2 => rfl

/-- A number that fits is read back. -/
theorem unsignedBits?_decimal {bits n : Nat} (h : n < 2 ^ bits) :
    unsignedBits? bits (decimal n) = some n := by
  unfold unsignedBits?
  rw [unsigned?_decimal]
  exact Option.filter_some_pos (by simpa using h)

theorem unsignedBits?_toNat {w : Nat} (v : BitVec w) :
    unsignedBits? w (decimal v.toNat) = some v.toNat :=
  unsignedBits?_decimal v.isLt

/-- A text announces no radix unless its second character is one of six letters. -/
theorem announcedRadix_eq_self {s : List Char}
    (h : ∀ c ∈ ['x', 'X', 'o', 'O', 'b', 'B'], c ∉ s) : announcedRadix s = (10, s) := by
  unfold announcedRadix
  split <;> simp_all

theorem announcedRadix_decimal (n : Nat) : announcedRadix (decimal n) = (10, decimal n) :=
  announcedRadix_eq_self (by simp [not_mem_decimal])

theorem wide?_decimal {bits n : Nat} (h : n < 2 ^ bits) : wide? bits (decimal n) = some n := by
  have hfilter : (decimal n).filter (· ≠ '_') = decimal n := by
    refine List.filter_eq_self.2 fun c hc => ?_
    have hne : c ≠ '_' := fun heq => not_mem_decimal (c := '_') (by decide) (heq ▸ hc)
    simpa using hne
  unfold wide?
  rw [announcedRadix_decimal]
  dsimp only
  rw [hfilter, accumulate?_decimal]
  exact Option.filter_some_pos (by simpa using h)

theorem wide?_toNat {w : Nat} (v : BitVec w) : wide? w (decimal v.toNat) = some v.toNat :=
  wide?_decimal v.isLt

end Courier.Numeral
