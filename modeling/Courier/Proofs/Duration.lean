import Courier.Duration
import Mathlib.Algebra.Group.Nat.Defs

/-!
Durations against whole milliseconds. The count of milliseconds that goes over the wire is exact
below `2 ^ 64`, and a duration is made again from it when it is a whole number of them.
-/
namespace Courier.Duration

/-- These whole milliseconds fit into the duration, and one more does not. -/
def RoundsDownTo (d : Duration) (n : Nat) : Prop :=
  n * 1000000 ≤ d.nanoseconds ∧ d.nanoseconds < (n + 1) * 1000000

theorem roundsDownTo_iff {d : Duration} {n : Nat} : d.RoundsDownTo n ↔ n = d.milliseconds := by
  unfold RoundsDownTo milliseconds
  omega

theorem milliseconds_ofMilliseconds (n : UInt64) : (ofMilliseconds n).milliseconds = n.toNat :=
  Nat.mul_div_cancel n.toNat (by decide)

theorem milliseconds_le {d d' : Duration} (h : d.nanoseconds ≤ d'.nanoseconds) :
    d.milliseconds ≤ d'.milliseconds :=
  Nat.div_le_div_right h

theorem toNat_wireMilliseconds_eq_mod (d : Duration) :
    d.wireMilliseconds.toNat = d.milliseconds % 2 ^ 64 :=
  UInt64.toNat_ofNat

theorem toNat_wireMilliseconds {d : Duration} (h : d.milliseconds < 2 ^ 64) :
    d.wireMilliseconds.toNat = d.milliseconds := by
  rw [toNat_wireMilliseconds_eq_mod, Nat.mod_eq_of_lt h]

theorem wireMilliseconds_ofMilliseconds (n : UInt64) : (ofMilliseconds n).wireMilliseconds = n := by
  rw [← UInt64.toNat_inj, toNat_wireMilliseconds, milliseconds_ofMilliseconds]
  rw [milliseconds_ofMilliseconds]
  exact n.toNat_lt

/-- A duration made again from its milliseconds is never longer. -/
theorem nanoseconds_ofMilliseconds_le (d : Duration) :
    (ofMilliseconds d.wireMilliseconds).nanoseconds ≤ d.nanoseconds := by
  have hmod := Nat.mod_le d.milliseconds (2 ^ 64)
  rw [← toNat_wireMilliseconds_eq_mod] at hmod
  change d.wireMilliseconds.toNat * 1000000 ≤ d.nanoseconds
  unfold milliseconds at hmod
  omega

theorem ext_nanoseconds {d d' : Duration} (h : d.nanoseconds = d'.nanoseconds) : d = d' := by
  cases d
  cases d'
  cases h
  rfl

/-- A duration is made again from its milliseconds when it is a whole number of them that fits a
word, and only then. -/
theorem ofMilliseconds_wireMilliseconds_eq_iff {d : Duration} :
    ofMilliseconds d.wireMilliseconds = d ↔ ∃ n, d = ofMilliseconds n := by
  constructor
  · intro h
    exact ⟨d.wireMilliseconds, h.symm⟩
  · rintro ⟨n, rfl⟩
    rw [wireMilliseconds_ofMilliseconds]

end Courier.Duration
