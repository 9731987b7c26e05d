import Courier.AttemptBudget
import Mathlib.Tactic.Common

/-! What a budget allows, in natural numbers: one attempt at least, and the limit at most. -/
namespace Courier.AttemptBudget

theorem toNat_limit_ofLimit (limit : UInt32) :
    (ofLimit limit).limit.toNat = max 1 limit.toNat := by
  unfold ofLimit
  by_cases h : limit = 0
  · subst h
    rfl
  · have hpos : limit.toNat ≠ 0 := fun h0 => h (UInt32.toNat_inj.1 h0)
    simp only [h, if_false]
    omega

@[simp] theorem limit_record (b : AttemptBudget) : b.record.limit = b.limit := rfl

/-- The count goes up by one and stops at the largest word. -/
theorem toNat_used_record (b : AttemptBudget) :
    b.record.used.toNat = min (b.used.toNat + 1) 0xFFFFFFFF := by
  have hb := b.used.toNat_lt
  have htop : (UInt32.ofNat 0xFFFFFFFF).toNat = 0xFFFFFFFF := rfl
  unfold record
  by_cases h : b.used = UInt32.ofNat 0xFFFFFFFF
  · simp only [h, if_true, htop]
    rfl
  · have hne : b.used.toNat ≠ 0xFFFFFFFF := fun he => h (UInt32.toNat_inj.1 he)
    have hadd : (b.used + 1).toNat = (b.used.toNat + 1) % 4294967296 := UInt32.toNat_add _ _
    simp only [h, if_false, hadd]
    omega

theorem hasRemaining_iff (b : AttemptBudget) :
    b.hasRemaining = true ↔ b.used.toNat < b.limit.toNat := by
  unfold hasRemaining
  rw [decide_eq_true_iff, UInt32.lt_iff_toNat_lt]

/-- Below the limit an attempt is counted without loss. -/
theorem toNat_used_record_of_hasRemaining {b : AttemptBudget} (h : b.hasRemaining = true) :
    b.record.used.toNat = b.used.toNat + 1 := by
  have hlt := (hasRemaining_iff b).1 h
  have hl := b.limit.toNat_lt
  rw [toNat_used_record]
  omega

theorem hasRemaining_ofLimit (limit : UInt32) : (ofLimit limit).hasRemaining = true := by
  rw [hasRemaining_iff, toNat_limit_ofLimit]
  change 0 < max 1 limit.toNat
  omega

theorem toNat_remaining (b : AttemptBudget) :
    b.remaining.toNat = b.limit.toNat - b.used.toNat := by
  unfold remaining
  by_cases h : b.used ≤ b.limit
  · rw [if_pos h]
    exact UInt32.toNat_sub_of_le _ _ h
  · rw [if_neg h]
    rw [UInt32.le_iff_toNat_le] at h
    have hzero : (0 : UInt32).toNat = 0 := rfl
    omega

theorem hasRemaining_iff_remaining_pos (b : AttemptBudget) :
    b.hasRemaining = true ↔ 0 < b.remaining := by
  rw [hasRemaining_iff, UInt32.lt_iff_toNat_lt, toNat_remaining, UInt32.toNat_zero]
  exact Nat.sub_pos_iff_lt.symm

theorem recordMany_succ (b : AttemptBudget) (k : Nat) :
    b.recordMany (k + 1) = (b.recordMany k).record := by
  induction k generalizing b with
  | zero => rfl
  | succ k ih => exact ih b.record

@[simp] theorem limit_recordMany (b : AttemptBudget) (k : Nat) :
    (b.recordMany k).limit = b.limit := by
  induction k generalizing b with
  | zero => rfl
  | succ k ih => exact ih b.record

theorem toNat_used_recordMany (b : AttemptBudget) (k : Nat) :
    (b.recordMany k).used.toNat = min (b.used.toNat + k) 0xFFFFFFFF := by
  induction k with
  | zero =>
    have hused := b.used.toNat_lt
    change b.used.toNat = _
    omega
  | succ k ih =>
    rw [recordMany_succ, toNat_used_record, ih]
    omega

/-- The limit is no higher than the largest word, so a count that stopped there is not below it. -/
theorem hasRemaining_recordMany_iff (b : AttemptBudget) (k : Nat) :
    (b.recordMany k).hasRemaining = true ↔ b.used.toNat + k < b.limit.toNat := by
  have hlimit := b.limit.toNat_lt
  rw [hasRemaining_iff, limit_recordMany, toNat_used_recordMany]
  omega

/-- So many attempts can be made, each of them while one remains. -/
theorem forall_hasRemaining_iff (b : AttemptBudget) (n : Nat) :
    (∀ k < n, (b.recordMany k).hasRemaining = true) ↔ n ≤ b.limit.toNat - b.used.toNat := by
  simp only [hasRemaining_recordMany_iff]
  constructor
  · intro h
    cases n with
    | zero => exact Nat.zero_le _
    | succ n =>
      have hlast := h n (Nat.lt_succ_self n)
      omega
  · intro h k hk
    omega

/-- As much used, under a limit that is as high or higher. -/
structure Within (b c : AttemptBudget) : Prop where
  used_eq : c.used = b.used
  limit_le : b.limit ≤ c.limit

theorem within_ofLimit {m n : UInt32} (h : m ≤ n) : (ofLimit m).Within (ofLimit n) where
  used_eq := rfl
  limit_le := by
    rw [UInt32.le_iff_toNat_le] at h ⊢
    rw [toNat_limit_ofLimit, toNat_limit_ofLimit]
    omega

theorem Within.record {b c : AttemptBudget} (h : b.Within c) : b.record.Within c.record where
  used_eq := by
    unfold AttemptBudget.record
    rw [h.used_eq]
  limit_le := h.limit_le

theorem Within.hasRemaining {b c : AttemptBudget} (h : b.Within c)
    (hb : b.hasRemaining = true) : c.hasRemaining = true := by
  rw [hasRemaining_iff] at hb ⊢
  rw [h.used_eq]
  exact Nat.lt_of_lt_of_le hb (UInt32.le_iff_toNat_le.1 h.limit_le)

end Courier.AttemptBudget
