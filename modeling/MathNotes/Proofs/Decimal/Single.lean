import Mathlib.Algebra.Order.Field.Power
import Mathlib.Data.Int.Log
import Mathlib.Data.Rat.Floor
import Mathlib.Tactic.FieldSimp
import Mathlib.Tactic.Linarith
import Mathlib.Tactic.Positivity
import Mathlib.Tactic.Ring
import MathNotes.Decimal.Single
import MathNotes.Proofs.Decimal.Digits

/-!
# Single precision numbers as rationals

The arithmetic of single precision numbers goes by pairs of natural numbers. Here it is said what
the pairs stand for: `scaled n base e` is the fraction `n * base ^ e` (`scaled_ratio`), and
`floorLog2` is `Int.log 2` of a fraction (`floorLog2_eq_log`).

* The magnitude nearest to a fraction depends on the rational number alone (`ofRatio?_congr`), so
  zeros at the end of a decimal do not matter (`ofDecimal?_mul_pow`).
* A number that is a magnitude is rounded to that magnitude (`ofRatio?_eq_some`).
-/

namespace MathNotes

namespace Decimal

/-! ### Rounding -/

theorem roundDiv_mul_left {c : ℕ} (hc : 0 < c) (a b : ℕ) :
    roundDiv (c * a) (c * b) = roundDiv a b := by
  have hdouble (r : ℕ) : 2 * (c * r) = c * (2 * r) := by ring
  simp only [roundDiv, Nat.mul_div_mul_left a b hc, Nat.mul_mod_mul_left, hdouble,
    Nat.mul_lt_mul_left hc]

/-- The result of `roundDiv a b` depends on the value of the fraction alone. -/
theorem roundDiv_congr {a b a' b' : ℕ} (hb : 0 < b) (hb' : 0 < b') (h : a * b' = a' * b) :
    roundDiv a b = roundDiv a' b' := by
  rw [← roundDiv_mul_left hb' a b, ← roundDiv_mul_left hb a' b', Nat.mul_comm b' a, h,
    Nat.mul_comm a' b, Nat.mul_comm b' b]

theorem roundDiv_mul_self (n : ℕ) {b : ℕ} (hb : 0 < b) : roundDiv (n * b) b = n := by
  rw [roundDiv, Nat.mul_mod_left, Nat.mul_div_cancel n hb, if_pos (by omega)]

end Decimal

namespace Single

/-! ### Scaling -/

theorem scaled_snd_pos (n : ℕ) {base : ℕ} (hbase : 0 < base) (e : ℤ) :
    0 < (scaled n base e).2 := by
  unfold scaled
  split
  · exact Nat.one_pos
  · exact Nat.pow_pos hbase

theorem scaled_ratio (n : ℕ) {base : ℕ} (hbase : 0 < base) (e : ℤ) :
    ((scaled n base e).1 : ℚ) / (scaled n base e).2 = n * (base : ℚ) ^ e := by
  have hne : (base : ℚ) ≠ 0 := by positivity
  unfold scaled
  split
  · next he =>
    obtain ⟨k, rfl⟩ := Int.eq_ofNat_of_zero_le he
    simp
  · next he =>
    obtain ⟨k, hk⟩ := Int.eq_ofNat_of_zero_le (show 0 ≤ -e by omega)
    obtain rfl : e = -(k : ℤ) := by omega
    simp [div_eq_mul_inv]

theorem scaled_one_ratio {base : ℕ} (hbase : 0 < base) (e : ℤ) :
    ((scaled 1 base e).1 : ℚ) / (scaled 1 base e).2 = (base : ℚ) ^ e := by
  simpa using scaled_ratio 1 hbase e

theorem scaled_one_fst_pos (e : ℤ) : 0 < (scaled 1 2 e).1 := by
  unfold scaled
  split
  · simp
  · exact Nat.one_pos

/-! ### The logarithm -/

/-- The logarithm `Int.log 2 q` is the exponent of the power of two that `q` reaches without the
next. -/
theorem log_eq {q : ℚ} {t : ℤ} (hlow : (2 : ℚ) ^ t ≤ q) (hhigh : q < (2 : ℚ) ^ (t + 1)) :
    Int.log 2 q = t := by
  have hpos : 0 < q := lt_of_lt_of_le (by positivity) hlow
  have hle : t ≤ Int.log 2 q :=
    (Int.zpow_le_iff_le_log one_lt_two hpos).mp (by exact_mod_cast hlow)
  have hlt : Int.log 2 q < t + 1 :=
    (Int.lt_zpow_iff_log_lt one_lt_two hpos).mp (by exact_mod_cast hhigh)
  omega

/-- The number `n` lies between two neighboring powers of two, and `Nat.log2` says between which. -/
theorem cast_log2_bounds {n : ℕ} (h : n ≠ 0) :
    (2 : ℚ) ^ (n.log2 : ℤ) ≤ n ∧ (n : ℚ) < (2 : ℚ) ^ ((n.log2 : ℤ) + 1) := by
  constructor
  · rw [zpow_natCast]
    exact_mod_cast Nat.log2_self_le h
  · rw [← Nat.cast_succ, zpow_natCast]
    exact_mod_cast Nat.lt_log2_self

/-- The logarithms of `num` and `den` tell that of `num / den`, but for one. -/
theorem div_bounds {num den : ℕ} (hnum : num ≠ 0) (hden : den ≠ 0) :
    (2 : ℚ) ^ ((num.log2 : ℤ) - den.log2 - 1) ≤ (num : ℚ) / den ∧
      (num : ℚ) / den < (2 : ℚ) ^ ((num.log2 : ℤ) - den.log2 + 1) := by
  obtain ⟨hnumLow, hnumHigh⟩ := cast_log2_bounds hnum
  obtain ⟨hdenLow, hdenHigh⟩ := cast_log2_bounds hden
  have hdenPos : (0 : ℚ) < den := by positivity
  constructor
  · rw [le_div_iff₀ hdenPos]
    calc (2 : ℚ) ^ ((num.log2 : ℤ) - den.log2 - 1) * den
        ≤ (2 : ℚ) ^ ((num.log2 : ℤ) - den.log2 - 1) * (2 : ℚ) ^ ((den.log2 : ℤ) + 1) :=
          mul_le_mul_of_nonneg_left hdenHigh.le (by positivity)
      _ = (2 : ℚ) ^ (num.log2 : ℤ) := by
        rw [← zpow_add₀ two_ne_zero]
        congr 1
        omega
      _ ≤ num := hnumLow
  · rw [div_lt_iff₀ hdenPos]
    calc (num : ℚ) < (2 : ℚ) ^ ((num.log2 : ℤ) + 1) := hnumHigh
      _ = (2 : ℚ) ^ ((num.log2 : ℤ) - den.log2 + 1) * (2 : ℚ) ^ (den.log2 : ℤ) := by
        rw [← zpow_add₀ two_ne_zero]
        congr 1
        omega
      _ ≤ (2 : ℚ) ^ ((num.log2 : ℤ) - den.log2 + 1) * den :=
        mul_le_mul_of_nonneg_left hdenLow (by positivity)

/-- Whether `num / den` reaches `2 ^ e` is found out by multiplying across, as `floorLog2` does. -/
theorem scaled_one_mul_le_iff (num : ℕ) {den : ℕ} (hden : den ≠ 0) (e : ℤ) :
    (scaled 1 2 e).1 * den ≤ num * (scaled 1 2 e).2 ↔ (2 : ℚ) ^ e ≤ (num : ℚ) / den := by
  have hdenPos : (0 : ℚ) < den := by positivity
  have hone : (0 : ℚ) < (scaled 1 2 e).2 := by
    exact_mod_cast scaled_snd_pos 1 two_pos e
  have hpower : ((scaled 1 2 e).1 : ℚ) / (scaled 1 2 e).2 = (2 : ℚ) ^ e := by
    exact_mod_cast scaled_one_ratio two_pos e
  rw [← hpower, div_le_div_iff₀ hone hdenPos]
  exact_mod_cast Iff.rfl

theorem floorLog2_eq_log {num den : ℕ} (hnum : num ≠ 0) (hden : den ≠ 0) :
    floorLog2 num den = Int.log 2 ((num : ℚ) / den) := by
  obtain ⟨hlow, hhigh⟩ := div_bounds hnum hden
  have hreached := scaled_one_mul_le_iff num hden (num.log2 - den.log2)
  simp only [floorLog2]
  split
  · next h => exact (log_eq (hreached.mp h) hhigh).symm
  · next h =>
    have hless : (num : ℚ) / den < (2 : ℚ) ^ ((num.log2 : ℤ) - den.log2 - 1 + 1) := by
      rw [Int.sub_add_cancel]
      exact not_le.mp (mt hreached.mpr h)
    exact (log_eq hlow hless).symm

/-! ### Rounding to a magnitude -/

/-- The fraction that `ofRatio?` rounds at the scale `e` is `num / den` divided by `2 ^ e`. -/
theorem significand_ratio (num den : ℕ) (e : ℤ) :
    ((num * (scaled 1 2 e).2 : ℕ) : ℚ) / (den * (scaled 1 2 e).1 : ℕ) =
      (num : ℚ) / den / (2 : ℚ) ^ e := by
  have hpower : ((scaled 1 2 e).1 : ℚ) / (scaled 1 2 e).2 = (2 : ℚ) ^ e := by
    exact_mod_cast scaled_one_ratio two_pos e
  rw [← hpower]
  push_cast
  rw [div_div_div_eq]

/-- The significand of `num / den` at the scale `e` depends on the value of the fraction alone. -/
theorem significand_congr {num den num' den' : ℕ} (hden : 0 < den) (hden' : 0 < den')
    (h : (num : ℚ) / den = (num' : ℚ) / den') (e : ℤ) :
    Decimal.roundDiv (num * (scaled 1 2 e).2) (den * (scaled 1 2 e).1) =
      Decimal.roundDiv (num' * (scaled 1 2 e).2) (den' * (scaled 1 2 e).1) := by
  have hfactor := scaled_one_fst_pos e
  refine Decimal.roundDiv_congr (by positivity) (by positivity) ?_
  have hne : ((den * (scaled 1 2 e).1 : ℕ) : ℚ) ≠ 0 := by positivity
  have hne' : ((den' * (scaled 1 2 e).1 : ℕ) : ℚ) ≠ 0 := by positivity
  have hratio := significand_ratio num den e
  rw [h, ← significand_ratio num' den' e, div_eq_div_iff hne hne'] at hratio
  exact_mod_cast hratio

/-- The result of `ofRatio? num den` depends on the value of the fraction alone. -/
theorem ofRatio?_congr {num den num' den' : ℕ} (hden : 0 < den) (hden' : 0 < den')
    (h : (num : ℚ) / den = (num' : ℚ) / den') : ofRatio? num den = ofRatio? num' den' := by
  have hzero : num = 0 ↔ num' = 0 := by
    have hcast : (num : ℚ) / den = 0 ↔ (num' : ℚ) / den' = 0 := by rw [h]
    simpa [hden.ne', hden'.ne'] using hcast
  by_cases hnum : num = 0
  · rw [ofRatio?, ofRatio?, if_pos hnum, if_pos (hzero.mp hnum)]
  · have hnum' := mt hzero.mpr hnum
    have hlog : floorLog2 num den = floorLog2 num' den' := by
      rw [floorLog2_eq_log hnum hden.ne', floorLog2_eq_log hnum' hden'.ne', h]
    rw [ofRatio?, ofRatio?, if_neg hnum, if_neg hnum', hlog]
    simp only [significand_congr hden hden' h]

/-- The number that a finite `magnitude` stands for, by its `parts`. -/
def ratio (magnitude : ℕ) : ℚ := (parts magnitude).1 * (2 : ℚ) ^ (parts magnitude).2

/-- The `parts` of `m` are those of a number with 24 binary digits, or of one with fewer at
`leastScale`. In both cases `m` can be put together from them again. -/
theorem parts_spec (m : ℕ) :
    ((parts m).1 < fractionSize ∧ (parts m).2 = leastScale ∧ m = (parts m).1) ∨
      (fractionSize ≤ (parts m).1 ∧ (parts m).1 < 2 * fractionSize ∧ leastScale ≤ (parts m).2 ∧
        m = ((parts m).2 - leastScale).toNat * fractionSize + (parts m).1) := by
  have hdivmod := Nat.div_add_mod m fractionSize
  have hmod : m % fractionSize < fractionSize := Nat.mod_lt _ (by decide)
  simp only [parts]
  split
  · next hfield =>
    rw [hfield] at hdivmod
    exact .inl ⟨hmod, rfl, by omega⟩
  · next hfield =>
    refine .inr ⟨by simp, by simp; omega, by simp, ?_⟩
    simp only [add_sub_cancel_left, Int.toNat_natCast]
    obtain ⟨k, hk⟩ := Nat.exists_eq_succ_of_ne_zero hfield
    rw [hk] at hdivmod ⊢
    simp only [Nat.succ_eq_add_one, Nat.add_sub_cancel] at hdivmod ⊢
    linarith

/-- The exponent in `parts m` is the scale at which `ofRatio?` rounds a number of the size of
`ratio m`. -/
theorem scale_ratio {m : ℕ} (hm : 0 < m) :
    max (Int.log 2 (ratio m) - 23) leastScale = (parts m).2 := by
  have hpow (e : ℤ) : (0 : ℚ) < (2 : ℚ) ^ e := by positivity
  rcases parts_spec m with ⟨hlt, hscale, hself⟩ | ⟨hle, hlt, hscale, -⟩
  · have hpos : 0 < ratio m := by
      rw [ratio, ← hself]
      positivity
    have hbound : ratio m < ((2 : ℕ) : ℚ) ^ (-126 : ℤ) := by
      have hcast : ((parts m).1 : ℚ) < (2 : ℚ) ^ (23 : ℤ) := by exact_mod_cast hlt
      calc ratio m = (parts m).1 * (2 : ℚ) ^ (-149 : ℤ) := by rw [ratio, hscale]; rfl
        _ < (2 : ℚ) ^ (23 : ℤ) * (2 : ℚ) ^ (-149 : ℤ) := mul_lt_mul_of_pos_right hcast (hpow _)
        _ = ((2 : ℕ) : ℚ) ^ (-126 : ℤ) := by norm_num
    rw [Int.lt_zpow_iff_log_lt one_lt_two hpos] at hbound
    rw [hscale, max_eq_right (by simp only [leastScale]; omega)]
  · have hlog : Int.log 2 (ratio m) = 23 + (parts m).2 := by
      refine log_eq ?_ ?_
      · have hcast : (2 : ℚ) ^ (23 : ℤ) ≤ (parts m).1 := by exact_mod_cast hle
        rw [zpow_add₀ two_ne_zero]
        exact mul_le_mul_of_nonneg_right hcast (hpow _).le
      · have hcast : ((parts m).1 : ℚ) < (2 : ℚ) ^ (24 : ℤ) := by exact_mod_cast hlt
        rw [show 23 + (parts m).2 + 1 = 24 + (parts m).2 by ring, zpow_add₀ two_ne_zero]
        exact mul_lt_mul_of_pos_right hcast (hpow _)
    rw [hlog, max_eq_left (by omega)]
    omega

/-- The significand of `num / den = ratio m`, at the scale of `m`, is that of `m`. -/
theorem significand_ratio_eq {m num den : ℕ} (hden : 0 < den) (h : (num : ℚ) / den = ratio m) :
    Decimal.roundDiv (num * (scaled 1 2 (parts m).2).2) (den * (scaled 1 2 (parts m).2).1) =
      (parts m).1 := by
  have hfactor := scaled_one_fst_pos (parts m).2
  have hne : ((den * (scaled 1 2 (parts m).2).1 : ℕ) : ℚ) ≠ 0 := by positivity
  have hratio := significand_ratio num den (parts m).2
  rw [h, ratio, mul_div_cancel_right₀ _ (by positivity), div_eq_iff hne] at hratio
  have hmul : num * (scaled 1 2 (parts m).2).2 =
      (parts m).1 * (den * (scaled 1 2 (parts m).2).1) := by exact_mod_cast hratio
  rw [hmul, Decimal.roundDiv_mul_self _ (by positivity)]

/-- A fraction that is a finite magnitude `m` is rounded to `m`. -/
theorem ofRatio?_eq_some {m num den : ℕ} (hm : 0 < m) (hfinite : m < infinity) (hden : 0 < den)
    (h : (num : ℚ) / den = ratio m) : ofRatio? num den = some m := by
  have hparts : 0 < (parts m).1 := by
    rcases parts_spec m with ⟨-, -, hself⟩ | ⟨hle, -⟩
    · omega
    · exact lt_of_lt_of_le (by decide) hle
  have hnum : num ≠ 0 := by
    rintro rfl
    have hpos : 0 < ratio m := by rw [ratio]; positivity
    simp [← h] at hpos
  have hself : ((parts m).2 - leastScale).toNat * fractionSize + (parts m).1 = m := by
    rcases parts_spec m with ⟨-, hscale, hself⟩ | ⟨-, -, -, hself⟩
    · rw [hscale, Int.sub_self, Int.toNat_zero, Nat.zero_mul, Nat.zero_add, ← hself]
    · exact hself.symm
  rw [ofRatio?, if_neg hnum, floorLog2_eq_log hnum hden.ne', h, scale_ratio hm]
  simp only [significand_ratio_eq hden h, hself, if_pos hfinite]

/-! ### Decimals -/

/-- Zeros at the end of a decimal do not matter to `ofDecimal?`. -/
theorem ofDecimal?_mul_pow (d k : ℕ) (e : ℤ) :
    ofDecimal? (d * 10 ^ k) (e - k) = ofDecimal? d e := by
  by_cases hd : d = 0
  · simp [ofDecimal?, hd]
  · have hdk : d * 10 ^ k ≠ 0 := by positivity
    have hplaces : ((Nat.toDigits 10 (d * 10 ^ k)).length : ℤ) + (e - k) =
        (Nat.toDigits 10 d).length + e := by
      rw [Decimal.length_toDigits_mul_pow hd]
      push_cast
      ring
    have hratio : ((scaled (d * 10 ^ k) 10 (e - k)).1 : ℚ) / (scaled (d * 10 ^ k) 10 (e - k)).2 =
        ((scaled d 10 e).1 : ℚ) / (scaled d 10 e).2 := by
      rw [scaled_ratio _ (by decide), scaled_ratio _ (by decide)]
      push_cast
      rw [mul_assoc, ← zpow_natCast, ← zpow_add₀ (by norm_num)]
      congr 2
      ring
    have hten : 0 < 10 := by decide
    simp only [ofDecimal?, hd, hdk, hplaces, decide_false, Bool.false_or,
      ofRatio?_congr (scaled_snd_pos _ hten _) (scaled_snd_pos _ hten _) hratio]

/-- A decimal `d * 10 ^ e` that is a finite magnitude `m`, within `farPlaces` of the point, reads as
`m`. -/
theorem ofDecimal?_eq_some {m d : ℕ} {e : ℤ} (hm : 0 < m) (hfinite : m < infinity) (hd : d ≠ 0)
    (hlow : -farPlaces ≤ (Nat.toDigits 10 d).length + e)
    (hhigh : (Nat.toDigits 10 d).length + e ≤ farPlaces) (h : (d : ℚ) * 10 ^ e = ratio m) :
    ofDecimal? d e = some m := by
  have hten : 0 < 10 := by decide
  have hratio : ((scaled d 10 e).1 : ℚ) / (scaled d 10 e).2 = ratio m := by
    rw [scaled_ratio _ hten, ← h, Nat.cast_ofNat]
  simp only [ofDecimal?, hd, decide_false, Bool.false_or, decide_eq_true_eq,
    if_neg (not_lt.mpr hlow), if_neg (not_lt.mpr hhigh),
    ofRatio?_eq_some hm hfinite (scaled_snd_pos d hten e) hratio]

/-! ### Sign and magnitude -/

theorem ofMagnitude_magnitude (x : Single) : ofMagnitude x.isNegative x.magnitude = x := by
  have hbits : x.bits.toNat < 2 * signBit := x.bits.toNat_lt
  have hnat : (if x.isNegative then signBit + x.magnitude else x.magnitude) = x.bits.toNat := by
    simp only [isNegative, magnitude, decide_eq_true_eq]
    split
    · next h =>
      rw [Nat.mod_eq_sub_mod h, Nat.mod_eq_of_lt (by omega)]
      omega
    · next h => exact Nat.mod_eq_of_lt (by omega)
  rw [ofMagnitude, hnat, UInt32.ofNat_toNat]

end Single

end MathNotes
