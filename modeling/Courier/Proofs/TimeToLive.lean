import Courier.Proofs.Duration
import Courier.Request

/-!
The time to live of a request in its envelope. It is rounded down to whole milliseconds as long as
their number fits the wire, and starts over at zero beyond.
-/
namespace Courier

theorem Json.nat_injective {n m : Nat} (h : Json.nat n = Json.nat m) : n = m :=
  Int.ofNat.inj (Json.integer.inj h)

namespace Request

/-- The envelope names the time to live rounded down to whole milliseconds, and the envelope of no
request that lives shorter, or as long, names more of them. -/
def KeepsTtl (r : Request) (chain : String) : Prop :=
  ∃ n, (r.envelope chain).get "ttl_ms" = .nat n ∧ r.ttl.RoundsDownTo n ∧
    ∀ (other : Request) (chain' : String) (m : Nat), other.ttl.nanoseconds ≤ r.ttl.nanoseconds →
      (other.envelope chain').get "ttl_ms" = .nat m → m ≤ n

theorem get_ttl (r : Request) (chain : String) :
    (r.envelope chain).get "ttl_ms" = .nat (r.ttl.milliseconds % 2 ^ 64) :=
  congrArg Json.nat r.ttl.toNat_wireMilliseconds_eq_mod

/-- An envelope keeps the time to live of its request exactly when its whole milliseconds are fewer
than `2 ^ 64`. -/
theorem keepsTtl_iff (r : Request) (chain : String) :
    r.KeepsTtl chain ↔ r.ttl.milliseconds < 2 ^ 64 := by
  constructor
  · rintro ⟨n, hget, hrounds, -⟩
    rw [get_ttl] at hget
    have hn : r.ttl.milliseconds % 2 ^ 64 = n := Json.nat_injective hget
    rw [Duration.roundsDownTo_iff.1 hrounds] at hn
    omega
  · intro hfits
    refine ⟨r.ttl.milliseconds, ?_, Duration.roundsDownTo_iff.2 rfl, ?_⟩
    · rw [get_ttl, Nat.mod_eq_of_lt hfits]
    · intro other chain' m hother hget
      rw [get_ttl] at hget
      have hm : other.ttl.milliseconds % 2 ^ 64 = m := Json.nat_injective hget
      have hle := Duration.milliseconds_le hother
      omega

/-- A request that is to live for `2 ^ 64` milliseconds. -/
def eternal : Request :=
  ((Draft.install [0]).withTtl (.ofSeconds 18446744073709551 ⟨616000000, by decide⟩)).build .default

/-- The envelope names no time at all. -/
theorem not_keepsTtl_eternal : ¬ eternal.KeepsTtl "casper-test" := by
  rintro ⟨n, hget, hrounds, -⟩
  obtain rfl : 0 = n := Json.nat_injective hget
  have hshort : eternal.ttl.nanoseconds < (0 + 1) * 1000000 := hrounds.2
  exact absurd hshort (by decide)

end Request
end Courier
