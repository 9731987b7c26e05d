import Courier.Backoff
import Courier.Config.Validation
import Courier.Policy
import Courier.Proofs.Double
import Courier.Proofs.Duration

/-!
The random addition to a delay. Whatever the ratio, the range it is drawn from is bounded by every
integer that bounds the base and is held exactly by a double. Up to a base of `2 ^ 63`, base and
addition together fit a word; beyond, they can exceed it, and then a build that checks its sums
stops while the delay of the other starts over at zero and is shorter than its base.
-/
namespace Courier

namespace Backoff

variable {base : Duration} {ratio : Double} {n : Nat}

/-- No bound that is held exactly is passed by the range unless the base passes it. -/
theorem jitterRange_le (hn : Double.Exact n) (h : base.wireMilliseconds.toNat ≤ n) :
    (jitterRange base ratio).toNat ≤ n := by
  obtain ⟨m, e, hbase, hside, hword⟩ := Double.exists_ofNat base.wireMilliseconds
  unfold jitterRange
  rw [hbase]
  rcases ratio.clampUnit_cases with hnan | ⟨s, k, f, hclamp, hunit⟩
  · rw [hnan]
    exact Nat.zero_le n
  · have hproduct : Double.value m e * Double.value k f ≤ Double.value m e :=
      mul_le_of_le_one_right (Double.value_nonneg m e) hunit
    obtain ⟨l, g, hmul, hmulSide⟩ :=
      Double.exists_mul (s := false) (t := s) (hproduct.trans hword)
    rw [hclamp, hmul]
    cases s with
    | true => exact Nat.zero_le n
    | false =>
      have hvalue : Double.value l g ≤ n :=
        hmulSide.le n hn (hproduct.trans (hside.le n hn (by exact_mod_cast h)))
      change (Double.toWord (.finite false l g)).toNat ≤ n
      rw [Double.toNat_toWord]
      exact (Nat.min_le_left _ _).trans (Nat.floor_le_of_le hvalue)

/-- With a ratio of one, the range reaches every bound that is held exactly and that the base
reaches. -/
theorem le_jitterRange_one (hn : Double.Exact n) (h : n ≤ base.wireMilliseconds.toNat) :
    n ≤ (jitterRange base 1).toNat := by
  obtain ⟨m, e, hbase, hside, hword⟩ := Double.exists_ofNat base.wireMilliseconds
  have hproduct : Double.value m e * Double.value Double.hiddenBit (-52) = Double.value m e := by
    rw [Double.value_one, mul_one]
  obtain ⟨l, g, hmul, hmulSide⟩ :=
    Double.exists_mul (s := false) (t := false) (hproduct.le.trans hword)
  rw [hproduct] at hmulSide
  have hvalue : (n : ℚ) ≤ Double.value l g :=
    hmulSide.ge n hn (hside.ge n hn (by exact_mod_cast h))
  have hlt := base.wireMilliseconds.toNat_lt
  unfold jitterRange
  rw [hbase, Double.clampUnit_one, hmul]
  change n ≤ (Double.toWord (.finite false l g)).toNat
  rw [Double.toNat_toWord]
  exact le_min (Nat.le_floor hvalue) (by omega)

theorem jitterRange_one_of_exact (h : Double.Exact base.wireMilliseconds.toNat) :
    jitterRange base 1 = base.wireMilliseconds :=
  UInt64.toNat_inj.1 (Nat.le_antisymm (jitterRange_le h le_rfl) (le_jitterRange_one h le_rfl))

theorem jitterRange_of_isZero (h : ratio.IsZero) : jitterRange base ratio = 0 := by
  rw [jitterRange, Double.clampUnit_of_isZero h]
  exact Double.toWord_mul_of_isZero _ h

/-- The additions that some word stands for. -/
def Draws (base : Duration) (ratio : Double) (j : UInt64) : Prop :=
  ∃ word, jitter base ratio word = j

theorem draws_iff {j : UInt64} :
    Draws base ratio j ↔ j < jitterRange base ratio ∨ jitterRange base ratio = 0 ∧ j = 0 := by
  unfold Draws jitter
  dsimp only
  by_cases hrange : jitterRange base ratio = 0
  · simp [hrange, eq_comm]
  · have hpos : 0 < jitterRange base ratio := UInt64.pos_iff_ne_zero.2 hrange
    simp only [hrange, if_false, false_and, or_false]
    constructor
    · rintro ⟨word, rfl⟩
      exact UInt64.mod_lt word hpos
    · intro hlt
      exact ⟨j, UInt64.mod_eq_of_lt hlt⟩

theorem toNat_lastJitter :
    (lastJitter base ratio).toNat = (jitterRange base ratio).toNat - 1 := by
  unfold lastJitter
  dsimp only
  by_cases hrange : jitterRange base ratio = 0
  · rw [if_pos hrange, hrange]
    rfl
  · have hpos : 0 < jitterRange base ratio := UInt64.pos_iff_ne_zero.2 hrange
    rw [if_neg hrange]
    exact UInt64.toNat_sub_of_le _ _ (UInt64.le_iff_toNat_le.2 (UInt64.lt_iff_toNat_lt.1 hpos))

theorem draws_lastJitter : Draws base ratio (lastJitter base ratio) := by
  rw [draws_iff, UInt64.lt_iff_toNat_lt, toNat_lastJitter]
  by_cases hrange : jitterRange base ratio = 0
  · refine .inr ⟨hrange, UInt64.toNat_inj.1 ?_⟩
    rw [toNat_lastJitter, hrange]
    rfl
  · have hpos := UInt64.lt_iff_toNat_lt.1 (UInt64.pos_iff_ne_zero.2 hrange)
    exact .inl (Nat.sub_lt hpos Nat.one_pos)

theorem Draws.le_lastJitter {j : UInt64} (h : Draws base ratio j) :
    j.toNat ≤ (lastJitter base ratio).toNat := by
  rw [toNat_lastJitter]
  rcases draws_iff.1 h with hlt | ⟨-, rfl⟩
  · rw [UInt64.lt_iff_toNat_lt] at hlt
    omega
  · exact Nat.zero_le _

theorem delay?_eq_none_iff {j : UInt64} :
    delay? base j = none ↔ 2 ^ 64 ≤ base.wireMilliseconds.toNat + j.toNat := by
  unfold delay?
  split
  case isTrue hfits => simpa using hfits
  case isFalse hfits => simpa using hfits

/-- As long as no sum is too large, it does not matter whether sums are checked. -/
theorem delay?_eq_some_iff {j : UInt64} {d : Duration} :
    delay? base j = some d ↔
      base.wireMilliseconds.toNat + j.toNat < 2 ^ 64 ∧ d = delay base j := by
  unfold delay?
  split
  case isTrue hfits => simpa [delay, eq_comm] using fun _ => hfits
  case isFalse hfits => simpa using fun hlt => absurd hlt hfits

/-- There are no bounds exactly when some draw stops a build that checks its sums. -/
theorem bounds?_eq_none_iff :
    bounds? base ratio = none ↔ ∃ j, Draws base ratio j ∧ delay? base j = none := by
  unfold bounds?
  rw [Option.map_eq_none_iff]
  constructor
  · intro h
    exact ⟨_, draws_lastJitter, h⟩
  · rintro ⟨j, hj, h⟩
    have hle := hj.le_lastJitter
    rw [delay?_eq_none_iff] at h ⊢
    omega

end Backoff

namespace SubmitPolicy

/-- Whatever is drawn, base and addition fit a word together, so that a build which checks its
sums goes on, and the delay is no shorter than its base. -/
def Lengthens (p : SubmitPolicy) : Prop :=
  ∀ j, Backoff.Draws p.retryDelay p.jitterRatio j →
    ∃ d, Backoff.delay? p.retryDelay j = some d ∧ p.retryDelay.nanoseconds ≤ d.nanoseconds

/-- Whatever is drawn, the delay is no shorter than its base where sums are not checked. -/
def LengthensUnchecked (p : SubmitPolicy) : Prop :=
  ∀ j, Backoff.Draws p.retryDelay p.jitterRatio j →
    p.retryDelay.nanoseconds ≤ (Backoff.delay p.retryDelay j).nanoseconds

/-- What is drawn for the delay of a policy lies below this. -/
def jitterRange (p : SubmitPolicy) : UInt64 :=
  Backoff.jitterRange p.retryDelay p.jitterRatio

variable {s : SubmitSettings}

theorem wireMilliseconds_retryDelay (s : SubmitSettings) :
    (ofSettings s).retryDelay.wireMilliseconds = s.retryDelayMs :=
  Duration.wireMilliseconds_ofMilliseconds s.retryDelayMs

/-- The sum of the whole milliseconds of a delay and an addition, where sums are not checked. -/
theorem nanoseconds_delay (s : SubmitSettings) (j : UInt64) :
    (Backoff.delay (ofSettings s).retryDelay j).nanoseconds =
      (s.retryDelayMs.toNat + j.toNat) % 2 ^ 64 * 1000000 := by
  change ((ofSettings s).retryDelay.wireMilliseconds + j).toNat * 1000000 = _
  rw [wireMilliseconds_retryDelay, UInt64.toNat_add]

/-- A sum that starts over is below both of its parts. -/
theorem le_delay_iff (s : SubmitSettings) (j : UInt64) :
    (ofSettings s).retryDelay.nanoseconds ≤
        (Backoff.delay (ofSettings s).retryDelay j).nanoseconds ↔
      s.retryDelayMs.toNat + j.toNat < 2 ^ 64 := by
  have hdelay := s.retryDelayMs.toNat_lt
  have hj := j.toNat_lt
  have hbase : (ofSettings s).retryDelay.nanoseconds = s.retryDelayMs.toNat * 1000000 := rfl
  rw [nanoseconds_delay, hbase]
  omega

/-- A delay is lengthened whatever is drawn exactly when the largest addition fits beside it. -/
theorem lengthens_iff_add_le :
    (ofSettings s).Lengthens ↔
      s.retryDelayMs.toNat + (ofSettings s).jitterRange.toNat ≤ 2 ^ 64 := by
  have hdelay := s.retryDelayMs.toNat_lt
  unfold Lengthens jitterRange
  constructor
  · intro h
    obtain ⟨d, hd, -⟩ := h _ Backoff.draws_lastJitter
    have hfits := (Backoff.delay?_eq_some_iff.1 hd).1
    rw [wireMilliseconds_retryDelay, Backoff.toNat_lastJitter] at hfits
    omega
  · intro h j hj
    have hle := hj.le_lastJitter
    rw [Backoff.toNat_lastJitter] at hle
    have hfits : s.retryDelayMs.toNat + j.toNat < 2 ^ 64 := by omega
    refine ⟨_, Backoff.delay?_eq_some_iff.2 ⟨?_, rfl⟩, (le_delay_iff s j).2 hfits⟩
    rwa [wireMilliseconds_retryDelay]

/-- Whether sums are checked makes no difference to which delays are only lengthened. -/
theorem lengthensUnchecked_iff :
    (ofSettings s).LengthensUnchecked ↔ (ofSettings s).Lengthens := by
  unfold LengthensUnchecked Lengthens
  simp only [le_delay_iff, Backoff.delay?_eq_some_iff, wireMilliseconds_retryDelay]
  refine forall₂_congr fun j _ => ?_
  constructor
  · intro hfits
    exact ⟨_, ⟨hfits, rfl⟩, (le_delay_iff s j).2 hfits⟩
  · rintro ⟨d, ⟨hfits, -⟩, -⟩
    exact hfits

/-- Up to half of the words, a delay has room for every addition. -/
theorem lengthens_of_le (h : s.retryDelayMs.toNat ≤ 2 ^ 63) : (ofSettings s).Lengthens := by
  rw [lengthens_iff_add_le]
  have hbase : (ofSettings s).retryDelay.wireMilliseconds.toNat ≤ 2 ^ 63 := by
    rwa [wireMilliseconds_retryDelay]
  have hrange : (ofSettings s).jitterRange.toNat ≤ 2 ^ 63 :=
    Backoff.jitterRange_le (Double.exact_two_pow 63) hbase
  omega

/-- Beyond half of the words, a delay that may double does not. -/
theorem not_lengthens_of_lt (hratio : s.jitterRatio = 1) (h : 2 ^ 63 < s.retryDelayMs.toNat) :
    ¬ (ofSettings s).Lengthens := by
  rw [lengthens_iff_add_le]
  have hbase : 2 ^ 63 ≤ (ofSettings s).retryDelay.wireMilliseconds.toNat := by
    rw [wireMilliseconds_retryDelay]
    exact h.le
  have hrange : 2 ^ 63 ≤ (ofSettings s).jitterRange.toNat := by
    change 2 ^ 63 ≤ (Backoff.jitterRange _ s.jitterRatio).toNat
    rw [hratio]
    exact Backoff.le_jitterRange_one (Double.exact_two_pow 63) hbase
  omega

/-- Additions only lengthen the delay of these settings, and stop no build that checks its sums,
exactly when base and range together stay within the words. Where sums are not checked the delay is
lengthened under the same settings and no others. Up to half of the words it always is; with a
ratio of one no longer delay is, although all integers below a delay that is held exactly are
drawn. -/
theorem lengthens_iff (s : SubmitSettings) :
    ((ofSettings s).Lengthens ↔
      s.retryDelayMs.toNat + (ofSettings s).jitterRange.toNat ≤ 2 ^ 64) ∧
    ((ofSettings s).LengthensUnchecked ↔ (ofSettings s).Lengthens) ∧
    (s.retryDelayMs.toNat ≤ 2 ^ 63 → (ofSettings s).Lengthens) ∧
    (s.jitterRatio = 1 →
      ((ofSettings s).Lengthens ↔ s.retryDelayMs.toNat ≤ 2 ^ 63) ∧
      (Double.Exact s.retryDelayMs.toNat → ∀ j,
        Backoff.Draws (ofSettings s).retryDelay s.jitterRatio j ↔
          j < s.retryDelayMs ∨ s.retryDelayMs = 0 ∧ j = 0)) := by
  refine ⟨lengthens_iff_add_le, lengthensUnchecked_iff, lengthens_of_le, fun hratio =>
    ⟨⟨fun h => ?_, lengthens_of_le⟩, ?_⟩⟩
  · by_contra hlong
    exact not_lengthens_of_lt hratio (not_le.1 hlong) h
  · intro hexact j
    have hrange : Backoff.jitterRange (ofSettings s).retryDelay 1 = s.retryDelayMs := by
      rw [Backoff.jitterRange_one_of_exact, wireMilliseconds_retryDelay]
      rwa [wireMilliseconds_retryDelay]
    rw [Backoff.draws_iff, hratio, hrange]

end SubmitPolicy

/-- Settings with the longest delay that is held exactly, which may double. -/
def Config.patient : Config :=
  { Config.default with submit := ⟨5, 18446744073709549568, 1⟩ }

/-- These settings keep the rules, and still an addition can lead past the last word. A build that
checks its sums stops there, and the delay of the other is no longer lengthened. -/
theorem Config.not_lengthens_patient :
    let policy := SubmitPolicy.ofSettings Config.patient.submit
    Config.patient.problems = [] ∧ Double.Exact Config.patient.submit.retryDelayMs.toNat ∧
      ¬ policy.Lengthens ∧ ¬ policy.LengthensUnchecked ∧
      ∃ j, Backoff.Draws policy.retryDelay policy.jitterRatio j ∧
        Backoff.delay? policy.retryDelay j = none := by
  intro policy
  have hnot : ¬ policy.Lengthens := SubmitPolicy.not_lengthens_of_lt rfl (by decide)
  refine ⟨by decide +kernel, ⟨9007199254740991, 11, by decide, by decide⟩, hnot,
    fun h => hnot (SubmitPolicy.lengthensUnchecked_iff.1 h),
    Backoff.bounds?_eq_none_iff.1 ?_⟩
  decide +kernel

end Courier
