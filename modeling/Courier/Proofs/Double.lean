import Courier.Double.Basic
import Mathlib.Algebra.Order.Floor.Semifield
import Mathlib.Data.Rat.Floor
import Mathlib.Tactic.FieldSimp
import Mathlib.Tactic.Linarith
import Mathlib.Tactic.Positivity

/-!
Rounding to binary floating-point numbers, in exact arithmetic. The rounded number lies on the same
side of every integer that is held exactly as the number that was rounded.
-/
namespace Courier.Double

def value (mantissa : Nat) (exponent : Int) : ℚ :=
  mantissa * 2 ^ exponent

/-- An integer whose bits fit the mantissa, up to a power of two. -/
def Exact (n : Nat) : Prop :=
  ∃ mantissa exponent : Nat, mantissa < 2 ^ precision ∧ n = mantissa * 2 ^ exponent

/-- `p` lies on the same side as `q` of every integer that is held exactly. -/
structure SameSide (p q : ℚ) : Prop where
  le : ∀ n, Exact n → q ≤ n → p ≤ n
  ge : ∀ n, Exact n → (n : ℚ) ≤ q → (n : ℚ) ≤ p

theorem two_zpow_pos (e : Int) : (0 : ℚ) < 2 ^ e :=
  zpow_pos two_pos e

theorem roundEven_le {num den k : Nat} (hden : 0 < den) (h : (num / den : ℚ) ≤ k) :
    roundEven num den ≤ k := by
  have hd : (0 : ℚ) < den := by exact_mod_cast hden
  have hle : num ≤ k * den := by exact_mod_cast (div_le_iff₀ hd).1 h
  have hnum := Nat.div_add_mod num den
  have hq : num / den ≤ k := Nat.div_le_of_le_mul (by rwa [Nat.mul_comm])
  unfold roundEven
  dsimp only
  rcases hq.lt_or_eq with hlt | heq
  · split_ifs <;> omega
  · -- The quotient is reached, so that nothing is left to round up.
    have hr : num % den = 0 := by
      rw [heq, Nat.mul_comm] at hnum
      omega
    rw [hr, heq]
    simp [hden.ne]

theorem le_roundEven {num den k : Nat} (hden : 0 < den) (h : (k : ℚ) ≤ num / den) :
    k ≤ roundEven num den := by
  have hd : (0 : ℚ) < den := by exact_mod_cast hden
  have hle : k * den ≤ num := by exact_mod_cast (le_div_iff₀ hd).1 h
  have hq : k ≤ num / den := (Nat.le_div_iff_mul_le hden).2 hle
  unfold roundEven
  dsimp only
  split_ifs <;> omega

/-- What is rounded is the quotient in units of a power of two. -/
theorem exists_inUnits (num : Nat) {den : Nat} (hden : 0 < den) (e : Int) :
    ∃ a b, 0 < b ∧ inUnits num den e = roundEven a b ∧ (num / den : ℚ) = a / b * 2 ^ e := by
  unfold inUnits
  split_ifs with he
  · obtain ⟨n, rfl⟩ := Int.eq_ofNat_of_zero_le he
    refine ⟨num, den * 2 ^ n, by positivity, rfl, ?_⟩
    push_cast
    rw [zpow_natCast]
    field_simp
  · obtain ⟨n, hn⟩ := Int.eq_ofNat_of_zero_le (show 0 ≤ -e by omega)
    obtain rfl : e = -(n : Int) := by omega
    refine ⟨num * 2 ^ n, den, hden, by simp, ?_⟩
    push_cast
    rw [zpow_neg, zpow_natCast]
    field_simp

theorem inUnits_le {num den k : Nat} {e : Int} (hden : 0 < den)
    (h : (num / den : ℚ) ≤ value k e) : inUnits num den e ≤ k := by
  obtain ⟨a, b, hb, hunits, hq⟩ := exists_inUnits num hden e
  rw [hq, value] at h
  rw [hunits]
  exact roundEven_le hb (le_of_mul_le_mul_right h (two_zpow_pos e))

theorem le_inUnits {num den k : Nat} {e : Int} (hden : 0 < den)
    (h : value k e ≤ (num / den : ℚ)) : k ≤ inUnits num den e := by
  obtain ⟨a, b, hb, hunits, hq⟩ := exists_inUnits num hden e
  rw [hq, value] at h
  rw [hunits]
  exact le_roundEven hb (le_of_mul_le_mul_right h (two_zpow_pos e))

theorem fraction_spec (m : Nat) (e : Int) :
    0 < (fraction m e).2 ∧ ((fraction m e).1 / (fraction m e).2 : ℚ) = value m e := by
  unfold fraction value
  split_ifs with he
  · obtain ⟨n, rfl⟩ := Int.eq_ofNat_of_zero_le he
    simp
  · obtain ⟨n, hn⟩ := Int.eq_ofNat_of_zero_le (show 0 ≤ -e by omega)
    obtain rfl : e = -(n : Int) := by omega
    simp [div_eq_mul_inv]

/-- The order of a quotient is not above it. -/
theorem two_zpow_binaryOrder_le {num den : Nat} (hnum : num ≠ 0) (hden : den ≠ 0) :
    (2 : ℚ) ^ binaryOrder num den ≤ num / den := by
  have hd : (0 : ℚ) < den := by exact_mod_cast Nat.pos_of_ne_zero hden
  have hlow : (2 : ℚ) ^ (num.log2 : Int) ≤ num := by
    exact_mod_cast Nat.log2_self_le hnum
  have hhigh : (den : ℚ) ≤ 2 ^ ((den.log2 : Int) + 1) := by
    exact_mod_cast (Nat.lt_log2_self (n := den)).le
  have hbelow : (2 : ℚ) ^ ((num.log2 : Int) - den.log2 - 1) * den ≤ num := by
    calc (2 : ℚ) ^ ((num.log2 : Int) - den.log2 - 1) * den
        ≤ 2 ^ ((num.log2 : Int) - den.log2 - 1) * 2 ^ ((den.log2 : Int) + 1) :=
          mul_le_mul_of_nonneg_left hhigh (two_zpow_pos _).le
      _ = 2 ^ (num.log2 : Int) := by
          rw [← zpow_add₀ two_ne_zero]
          congr 1
          omega
      _ ≤ num := hlow
  unfold binaryOrder
  dsimp only
  rw [le_div_iff₀ hd]
  split_ifs with hk hreach hreach
  · obtain ⟨n, hn⟩ := Int.eq_ofNat_of_zero_le hk
    rw [hn] at hreach ⊢
    rw [zpow_natCast, mul_comm]
    exact_mod_cast hreach
  · exact hbelow
  · obtain ⟨n, hn⟩ := Int.eq_ofNat_of_zero_le (show 0 ≤ -((num.log2 : Int) - den.log2) by omega)
    rw [hn] at hreach
    rw [← neg_neg ((num.log2 : Int) - den.log2), hn, zpow_neg, zpow_natCast,
      inv_mul_le_iff₀ (by positivity), mul_comm]
    exact_mod_cast hreach
  · exact hbelow

theorem value_nonneg (m : Nat) (e : Int) : 0 ≤ value m e :=
  mul_nonneg m.cast_nonneg (two_zpow_pos e).le

theorem value_mono {m k : Nat} (h : m ≤ k) (e : Int) : value m e ≤ value k e :=
  mul_le_mul_of_nonneg_right (by exact_mod_cast h) (two_zpow_pos e).le

/-- An exact integer lies on the grid of an exponent, unless it is below all normal values there. -/
theorem Exact.on_grid {n : Nat} (h : Exact n) (e : Int) :
    (∃ k, (n : ℚ) = value k e) ∨ 0 < e ∧ (n : ℚ) < value hiddenBit e := by
  obtain ⟨m, f, hm, rfl⟩ := h
  rcases le_or_gt e f with hle | hlt
  · obtain ⟨d, hd⟩ := Int.eq_ofNat_of_zero_le (show 0 ≤ (f : Int) - e by omega)
    refine .inl ⟨m * 2 ^ d, ?_⟩
    have hf : (f : Int) = d + e := by omega
    have hpow : (2 : ℚ) ^ f = 2 ^ d * 2 ^ e := by
      rw [← zpow_natCast, hf, zpow_add₀ two_ne_zero, zpow_natCast]
    unfold value
    push_cast
    rw [hpow, mul_assoc]
  · refine .inr ⟨by omega, ?_⟩
    have hm' : (m : ℚ) < hiddenBit * 2 := by
      have hbits : 2 ^ precision = hiddenBit * 2 := by decide
      exact_mod_cast hbits ▸ hm
    have hpow : (2 : ℚ) * 2 ^ f ≤ 2 ^ e := by
      rw [← zpow_natCast, ← zpow_one_add₀ two_ne_zero]
      exact zpow_le_zpow_right₀ one_le_two (by omega)
    unfold value
    push_cast
    calc (m : ℚ) * 2 ^ f < hiddenBit * 2 * 2 ^ f :=
          mul_lt_mul_of_pos_right hm' (by positivity)
      _ = hiddenBit * (2 * 2 ^ f) := mul_assoc _ _ _
      _ ≤ hiddenBit * 2 ^ e := mul_le_mul_of_nonneg_left hpow (by positivity)

/-- The exponent in whose units a quotient is rounded. -/
def roundingExponent (num den : Nat) : Int :=
  max minExponent (binaryOrder num den - 52)

/-- Above the subnormal values, the mantissa has its leading bit. -/
theorem hiddenBit_le {num den : Nat} (hnum : num ≠ 0) (hden : den ≠ 0)
    (he : 0 < roundingExponent num den) :
    value hiddenBit (roundingExponent num den) ≤ (num / den : ℚ) := by
  have horder : roundingExponent num den = binaryOrder num den - 52 := by
    have hmin : minExponent = -1074 := rfl
    unfold roundingExponent at he ⊢
    omega
  have hvalue : value hiddenBit (binaryOrder num den - 52) = 2 ^ binaryOrder num den := by
    have hbit : ((hiddenBit : Nat) : ℚ) = 2 ^ (52 : Int) := by norm_num [hiddenBit]
    rw [value, hbit, ← zpow_add₀ two_ne_zero]
    congr 1
    omega
  rw [horder, hvalue]
  exact two_zpow_binaryOrder_le hnum hden

theorem sameSide_inUnits {num den : Nat} (hnum : num ≠ 0) (hden : den ≠ 0) :
    SameSide (value (inUnits num den (roundingExponent num den)) (roundingExponent num den))
      (num / den) where
  le n hn hle := by
    rcases hn.on_grid (roundingExponent num den) with ⟨k, hk⟩ | ⟨he, hlt⟩
    · rw [hk] at hle ⊢
      exact value_mono (inUnits_le (Nat.pos_of_ne_zero hden) hle) _
    · exact absurd (hle.trans_lt hlt) (hiddenBit_le hnum hden he).not_gt
  ge n hn hge := by
    rcases hn.on_grid (roundingExponent num den) with ⟨k, hk⟩ | ⟨he, hlt⟩
    · rw [hk] at hge ⊢
      exact value_mono (le_inUnits (Nat.pos_of_ne_zero hden) hge) _
    · have hmantissa := le_inUnits (Nat.pos_of_ne_zero hden) (hiddenBit_le hnum hden he)
      exact hlt.le.trans (value_mono hmantissa _)

/-- A quotient of moderate size is rounded to a finite number on the same side. -/
theorem exists_ofRatio (negative : Bool) (num : Nat) {den : Nat} (hden : den ≠ 0)
    (hsize : (num / den : ℚ) ≤ 2 ^ 64) :
    ∃ m e, ofRatio negative num den = .finite negative m e ∧ SameSide (value m e) (num / den) := by
  by_cases hnum : num = 0
  · subst hnum
    exact ⟨0, minExponent, by simp [ofRatio], by constructor <;> simp [value]⟩
  · have hside := sameSide_inUnits hnum hden
    have hsmall : roundingExponent num den ≤ 12 := by
      have hpow : (2 : ℚ) ^ binaryOrder num den ≤ 2 ^ (64 : Int) :=
        (two_zpow_binaryOrder_le hnum hden).trans (by exact_mod_cast hsize)
      have horder := (zpow_le_zpow_iff_right₀ one_lt_two).1 hpow
      have hmin : minExponent = -1074 := rfl
      unfold roundingExponent
      omega
    have hmax : maxExponent = 971 := rfl
    unfold ofRatio
    rw [if_neg hnum]
    dsimp only
    rw [← roundingExponent]
    by_cases hcarry : inUnits num den (roundingExponent num den) = Nat.pow 2 precision
    · have hcarried : value (Nat.pow 2 (precision - 1)) (roundingExponent num den + 1) =
          value (inUnits num den (roundingExponent num den)) (roundingExponent num den) := by
        rw [hcarry, value, value, zpow_add_one₀ two_ne_zero]
        norm_num [precision]
        ring
      rw [if_pos hcarry]
      dsimp only
      rw [if_neg (by omega)]
      exact ⟨_, _, rfl, hcarried ▸ hside⟩
    · rw [if_neg hcarry]
      dsimp only
      rw [if_neg (by omega)]
      exact ⟨_, _, rfl, hside⟩

theorem exact_two_pow (e : Nat) : Exact (2 ^ e) :=
  ⟨1, e, by decide, (Nat.one_mul _).symm⟩

/-- A word is rounded to a finite number on the same side. -/
theorem exists_ofNat (n : UInt64) :
    ∃ m e, ofNat n.toNat = .finite false m e ∧ SameSide (value m e) n.toNat ∧
      value m e ≤ 2 ^ 64 := by
  have hword : (n.toNat : ℚ) ≤ (2 ^ 64 : Nat) := by exact_mod_cast n.toNat_lt.le
  have hsize : (n.toNat / (1 : Nat) : ℚ) ≤ 2 ^ 64 := by
    rw [Nat.cast_one, div_one]
    exact_mod_cast hword
  obtain ⟨m, e, hfinite, hside⟩ := exists_ofRatio false n.toNat one_ne_zero hsize
  rw [Nat.cast_one, div_one] at hside
  exact ⟨m, e, hfinite, hside, by exact_mod_cast hside.le _ (exact_two_pow 64) hword⟩

theorem value_mul (m n : Nat) (e f : Int) : value (m * n) (e + f) = value m e * value n f := by
  unfold value
  rw [zpow_add₀ two_ne_zero]
  push_cast
  ring

/-- A product of moderate size is rounded to a finite number on the same side. -/
theorem exists_mul {s t : Bool} {m n : Nat} {e f : Int} (h : value m e * value n f ≤ 2 ^ 64) :
    ∃ k g, Double.finite s m e * Double.finite t n f = .finite (s != t) k g ∧
      SameSide (value k g) (value m e * value n f) := by
  obtain ⟨hden, hfraction⟩ := fraction_spec (m * n) (e + f)
  rw [value_mul] at hfraction
  rw [← hfraction] at h ⊢
  exact exists_ofRatio (s != t) _ hden.ne' h

/-- The word of a finite number is its integer part, cut at the largest word. -/
theorem toNat_toWord (m : Nat) (e : Int) :
    (toWord (.finite false m e)).toNat = min ⌊value m e⌋₊ (2 ^ 64 - 1) := by
  obtain ⟨hden, hfraction⟩ := fraction_spec m e
  rw [← hfraction, Nat.floor_div_eq_div]
  have hlt : min ((fraction m e).1 / (fraction m e).2) (UInt64.size - 1) < 2 ^ 64 := by
    have hsize : UInt64.size = 2 ^ 64 := rfl
    omega
  exact UInt64.toNat_ofNat_of_lt hlt

theorem value_shifted (m a : Nat) :
    value m ((a : Int) + minExponent) = (m * 2 ^ a : Nat) * 2 ^ minExponent := by
  rw [value, zpow_add₀ two_ne_zero, zpow_natCast, Nat.cast_mul, Nat.cast_pow, Nat.cast_ofNat,
    mul_assoc]

theorem value_one : value hiddenBit (-52) = 1 := by
  norm_num [value, hiddenBit]

/-- The order of finite numbers is that of their values. An exponent below the least one counts as
the least one in it. -/
theorem value_le_of_scaled_le {m n : Nat} {e f : Int} (hf : minExponent ≤ f)
    (h : scaled false m e ≤ scaled false n f) : value m e ≤ value n f := by
  have he : e ≤ ((e - minExponent).toNat : Int) + minExponent := by omega
  have hf' : ((f - minExponent).toNat : Int) + minExponent = f := by omega
  have hnat : m * 2 ^ (e - minExponent).toNat ≤ n * 2 ^ (f - minExponent).toNat :=
    Int.ofNat_le.1 h
  calc value m e ≤ value m (((e - minExponent).toNat : Int) + minExponent) :=
        mul_le_mul_of_nonneg_left (zpow_le_zpow_right₀ one_le_two he) m.cast_nonneg
    _ = (m * 2 ^ (e - minExponent).toNat : Nat) * 2 ^ minExponent := value_shifted _ _
    _ ≤ (n * 2 ^ (f - minExponent).toNat : Nat) * 2 ^ minExponent :=
        mul_le_mul_of_nonneg_right (Nat.cast_le.2 hnat) (two_zpow_pos _).le
    _ = value n f := by rw [← value_shifted, hf']

theorem scaled_zero (s : Bool) (e : Int) : scaled s 0 e = 0 := by
  cases s <;> simp [scaled]

theorem scaled_nonneg (m : Nat) (e : Int) : 0 ≤ scaled false m e :=
  Int.natCast_nonneg _

theorem lt_finite_iff {s t : Bool} {m n : Nat} {e f : Int} :
    lt (.finite s m e) (.finite t n f) = true ↔ scaled s m e < scaled t n f :=
  decide_eq_true_iff

theorem lt_zero_iff {s : Bool} {m : Nat} {e : Int} :
    lt (.finite s m e) zero = true ↔ scaled s m e < 0 := by
  rw [← scaled_zero false minExponent]
  exact lt_finite_iff

/-- Moved into the unit interval, a number is no number still or has a value of at most one. -/
theorem clampUnit_cases (x : Double) :
    x.clampUnit = .nan ∨ ∃ s m e, x.clampUnit = .finite s m e ∧ value m e ≤ 1 := by
  have hnone (e : Int) : value 0 e ≤ 1 := by simp [value]
  unfold clampUnit
  split_ifs with hlow hhigh
  · exact .inr ⟨false, 0, minExponent, rfl, hnone _⟩
  · exact .inr ⟨false, hiddenBit, -52, rfl, value_one.le⟩
  · cases x with
    | nan => exact .inl rfl
    | infinite s =>
      cases s with
      | false => exact absurd rfl hhigh
      | true => exact absurd rfl hlow
    | finite s m e =>
      refine .inr ⟨s, m, e, rfl, ?_⟩
      cases s with
      | false =>
        have hle := not_lt.1 (mt lt_finite_iff.2 hhigh)
        have hvalue := value_le_of_scaled_le (by decide) hle
        rwa [value_one] at hvalue
      | true =>
        -- A negative number was moved to zero, so this is the zero with a sign.
        have hnonneg := not_lt.1 (mt lt_zero_iff.2 hlow)
        have hscaled : m * 2 ^ (e - minExponent).toNat = 0 :=
          Int.ofNat_eq_zero.1 (le_antisymm (neg_nonneg.1 hnonneg) (Int.natCast_nonneg _))
        obtain rfl : m = 0 := (Nat.mul_eq_zero.1 hscaled).resolve_right (Nat.two_pow_pos _).ne'
        exact hnone e

theorem toWord_zero (s : Bool) (e : Int) : toWord (.finite s 0 e) = 0 := by
  cases s with
  | false =>
    rw [← UInt64.toNat_inj, toNat_toWord]
    simp [value]
  | true => rfl

theorem clampUnit_one : clampUnit 1 = .finite false hiddenBit (-52) := by
  have hlow : ¬ lt one zero = true := fun h => (scaled_nonneg _ _).not_gt (lt_zero_iff.1 h)
  have hhigh : ¬ lt one one = true := fun h => lt_irrefl _ (lt_finite_iff.1 h)
  change clampUnit one = one
  rw [clampUnit, if_neg hlow, if_neg hhigh]

def IsZero : Double → Prop
  | .finite _ m _ => m = 0
  | _ => False

theorem clampUnit_of_isZero {x : Double} (h : x.IsZero) : x.clampUnit = x := by
  cases x with
  | nan | infinite => exact h.elim
  | finite s m e =>
    obtain rfl : m = 0 := h
    have hlow : ¬ lt (.finite s 0 e) zero = true := by
      rw [lt_zero_iff, scaled_zero]
      exact lt_irrefl 0
    have hhigh : ¬ lt one (.finite s 0 e) = true := by
      intro hlt
      have hneg := lt_finite_iff.1 hlt
      rw [scaled_zero] at hneg
      exact (scaled_nonneg _ _).not_gt hneg
    rw [clampUnit, if_neg hlow, if_neg hhigh]

/-- A product with zero is zero or no number. -/
theorem toWord_mul_of_isZero (x : Double) {y : Double} (h : y.IsZero) : (x * y).toWord = 0 := by
  cases y with
  | nan | infinite => exact h.elim
  | finite t n f =>
    have hn : n = 0 := h
    subst hn
    change (mul x _).toWord = 0
    cases x with
    | nan | infinite => rfl
    | finite s m e =>
      have hnum : (fraction (m * 0) (e + f)).1 = 0 := by
        unfold fraction
        split_ifs <;> simp
      change (ofRatio _ (fraction (m * 0) (e + f)).1 (fraction (m * 0) (e + f)).2).toWord = 0
      rw [hnum, ofRatio, if_pos rfl, toWord_zero]

end Courier.Double
