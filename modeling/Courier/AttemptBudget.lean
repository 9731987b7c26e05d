/-!
A bounded count of attempts. A limit of zero counts as one, so that a first attempt is always
made; the count stops at the largest number of its width instead of starting over.
-/
namespace Courier

structure AttemptBudget where
  limit : UInt32
  used : UInt32
deriving DecidableEq, Repr

namespace AttemptBudget

def ofLimit (limit : UInt32) : AttemptBudget where
  limit := if limit = 0 then 1 else limit
  used := 0

def record (b : AttemptBudget) : AttemptBudget :=
  { b with used := if b.used = UInt32.ofNat 0xFFFFFFFF then b.used else b.used + 1 }

def remaining (b : AttemptBudget) : UInt32 :=
  if b.used ≤ b.limit then b.limit - b.used else 0

def hasRemaining (b : AttemptBudget) : Bool :=
  b.used < b.limit

def recordMany (b : AttemptBudget) : Nat → AttemptBudget
  | 0 => b
  | n + 1 => b.record.recordMany n

/-- While attempts remain, counting one leaves fewer of them. -/
theorem record_gap_lt {b : AttemptBudget} (h : b.record.hasRemaining = true) :
    b.record.limit.toNat - b.record.used.toNat < b.limit.toNat - b.used.toNat := by
  have hlt : b.record.used < b.limit := of_decide_eq_true h
  have hl := b.limit.toNat_lt
  rw [UInt32.lt_iff_toNat_lt] at hlt
  unfold record at hlt ⊢
  by_cases hu : b.used = UInt32.ofNat 0xFFFFFFFF
  · have : b.used.toNat = 0xFFFFFFFF := by rw [hu]; rfl
    simp only [hu, if_true] at hlt
    have h2 : (UInt32.ofNat 0xFFFFFFFF).toNat = 0xFFFFFFFF := rfl
    omega
  · have hne : b.used.toNat ≠ 0xFFFFFFFF := fun he => hu (UInt32.toNat_inj.1 he)
    have hb := b.used.toNat_lt
    have hadd : (b.used + 1).toNat = b.used.toNat + 1 := by
      rw [UInt32.toNat_add]
      exact Nat.mod_eq_of_lt (by have : (1 : UInt32).toNat = 1 := rfl; omega)
    simp only [hu, if_false] at hlt ⊢
    omega

end AttemptBudget
end Courier
