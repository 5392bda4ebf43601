import MathNotes.Decimal.Shortest
import MathNotes.Proofs.Decimal.Single

/-!
# The shortest decimal reads back

What is found on a grid reads back by the way it is looked for (`of_onGrid?_eq_some`). So all there
is to show for `ofDecimal?_shortest` is that some grid has such a decimal, and the finest does:
there every finite magnitude is a decimal itself (`ratio_eq_exactDigits`).
-/

namespace MathNotes.Single

/-- What `onGrid?` finds is not zero and reads back by `ofDecimal?`. -/
theorem of_onGrid?_eq_some {m d : ℕ} {e : ℤ} (h : onGrid? m e = some d) :
    d ≠ 0 ∧ ofDecimal? d e = some m := by
  simpa using List.find?_some h

/-- The digits of the magnitude `m` on the finest grid, so that `m` stands for
`exactDigits m * 10 ^ leastScale`. -/
def exactDigits (m : ℕ) : ℕ :=
  (parts m).1 * 2 ^ ((parts m).2 - leastScale).toNat * 5 ^ 149

theorem ratio_eq_exactDigits (m : ℕ) : ratio m = exactDigits m * (10 : ℚ) ^ leastScale := by
  have hscale : leastScale ≤ (parts m).2 := by
    rcases parts_spec m with ⟨-, h, -⟩ | ⟨-, -, h, -⟩
    · exact h.ge
    · exact h
  obtain ⟨k, hk⟩ := Int.eq_ofNat_of_zero_le (Int.sub_nonneg.mpr hscale)
  have hexponent : (parts m).2 = k + leastScale := by omega
  have hten : (10 : ℚ) ^ leastScale = 2 ^ leastScale * 5 ^ leastScale := by
    rw [← mul_zpow]
    norm_num
  have hfive : (5 : ℚ) ^ (149 : ℕ) * 5 ^ leastScale = 1 := by
    rw [← zpow_natCast, ← zpow_add₀ (by norm_num)]
    rfl
  calc ratio m = (parts m).1 * 2 ^ k * 2 ^ leastScale := by
        rw [ratio, hexponent, zpow_add₀ two_ne_zero, zpow_natCast, mul_assoc]
    _ = (parts m).1 * 2 ^ k * 2 ^ leastScale * (5 ^ (149 : ℕ) * 5 ^ leastScale) := by
        rw [hfive, mul_one]
    _ = exactDigits m * (10 : ℚ) ^ leastScale := by
        rw [exactDigits, hk, hten, Int.toNat_natCast]
        simp only [Nat.cast_mul, Nat.cast_pow, Nat.cast_ofNat]
        ring

/-- The digits of a finite magnitude on the finest grid are so many that the decimal is not beyond
`farPlaces`. -/
theorem exactDigits_bounds {m : ℕ} (hm : 0 < m) (hfinite : m < infinity) :
    10 ^ 88 ≤ exactDigits m ∧ exactDigits m < 10 ^ 209 := by
  have hbounds : 0 < (parts m).1 ∧ (parts m).1 < 2 ^ 24 ∧
      ((parts m).2 - leastScale).toNat ≤ 253 := by
    have hinfinity : infinity = 255 * fractionSize := rfl
    have hsize : fractionSize = 2 ^ 23 := rfl
    rcases parts_spec m with ⟨hlt, hscale, hself⟩ | ⟨hle, hlt, -, hself⟩
    · refine ⟨by omega, by omega, by simp [hscale]⟩
    · refine ⟨by omega, by omega, ?_⟩
      by_contra hscale
      have := Nat.mul_le_mul_right fractionSize (Nat.lt_of_not_le hscale)
      omega
  obtain ⟨hpos, hlt, hscale⟩ := hbounds
  constructor
  · calc 10 ^ 88 ≤ 1 * 5 ^ 149 := by norm_num
      _ ≤ exactDigits m := Nat.mul_le_mul_right _ (Nat.mul_pos hpos (by positivity))
  · calc exactDigits m
        ≤ 2 ^ 24 * 2 ^ 253 * 5 ^ 149 :=
          Nat.mul_le_mul_right _ (Nat.mul_le_mul hlt.le (Nat.pow_le_pow_right two_pos hscale))
      _ < 10 ^ 209 := by norm_num

/-- On the finest grid the nearest decimal to `m` is `exactDigits m`, which is `m` itself. -/
theorem roundDiv_leastScale (m : ℕ) :
    Decimal.roundDiv ((scaled (parts m).1 2 (parts m).2).1 * (scaled 1 10 leastScale).2)
      ((scaled (parts m).1 2 (parts m).2).2 * (scaled 1 10 leastScale).1) = exactDigits m := by
  have hden := scaled_snd_pos (parts m).1 two_pos (parts m).2
  have hfactor : 0 < (scaled 1 10 leastScale).1 := Nat.one_pos
  have hdivisor := scaled_snd_pos 1 (by decide : 0 < 10) leastScale
  have hpower : ((scaled 1 10 leastScale).1 : ℚ) / (scaled 1 10 leastScale).2 =
      (10 : ℚ) ^ leastScale := by
    exact_mod_cast scaled_one_ratio (by decide) leastScale
  have hvalue := scaled_ratio (parts m).1 two_pos (parts m).2
  rw [Nat.cast_ofNat, ← ratio, ratio_eq_exactDigits, ← hpower, mul_div_assoc',
    div_eq_div_iff (by positivity) (by positivity)] at hvalue
  have hmul : (scaled (parts m).1 2 (parts m).2).1 * (scaled 1 10 leastScale).2 =
      exactDigits m * (scaled 1 10 leastScale).1 * (scaled (parts m).1 2 (parts m).2).2 := by
    exact_mod_cast hvalue
  rw [hmul, Nat.mul_assoc, Nat.mul_comm (scaled 1 10 leastScale).1,
    Decimal.roundDiv_mul_self _ (by positivity)]

/-- The finest grid has a decimal that reads back as `m`, so the search for `shortest` ends there at
the latest. -/
theorem isSome_onGrid?_leastScale {m : ℕ} (hm : 0 < m) (hfinite : m < infinity) :
    (onGrid? m leastScale).isSome := by
  obtain ⟨hlow, hhigh⟩ := exactDigits_bounds hm hfinite
  have hten : 1 < 10 := by decide
  have hne : exactDigits m ≠ 0 := by omega
  have hlong := mt (Nat.length_toDigits_le_iff hten (by decide)).mp (not_lt.mpr hlow)
  have hshort := (Nat.length_toDigits_le_iff hten (by decide)).mpr hhigh
  have hreads : ofDecimal? (exactDigits m) leastScale = some m := by
    refine ofDecimal?_eq_some hm hfinite hne ?_ ?_ (ratio_eq_exactDigits m).symm
    all_goals
      simp only [farPlaces, leastScale]
      omega
  rw [onGrid?, List.find?_isSome]
  exact ⟨_, List.mem_cons_self, by simp [roundDiv_leastScale, hne, hreads]⟩

/-- The `shortest` decimal of a finite magnitude `m` reads back as `m`. -/
theorem ofDecimal?_shortest {m : ℕ} (hm : 0 < m) (hfinite : m < infinity) :
    (shortest m).1 ≠ 0 ∧ ofDecimal? (shortest m).1 (shortest m).2 = some m := by
  have hsome : (((List.range 188).map fun (step : ℕ) => coarsest - step).findSome?
      fun exponent => (onGrid? m exponent).map fun digits => (digits, exponent)).isSome := by
    rw [List.findSome?_isSome_iff]
    refine ⟨leastScale, List.mem_map.mpr ⟨187, by simp, rfl⟩, ?_⟩
    rw [Option.isSome_map]
    exact isSome_onGrid?_leastScale hm hfinite
  obtain ⟨⟨d, e⟩, hfound⟩ := Option.isSome_iff_exists.mp hsome
  have hshortest : shortest m = (d, e) := by
    rw [shortest, hfound]
    rfl
  obtain ⟨exponent, -, hmap⟩ := List.exists_of_findSome?_eq_some hfound
  obtain ⟨digits, hdigits, hpair⟩ := Option.map_eq_some_iff.mp hmap
  obtain ⟨rfl, rfl⟩ := Prod.mk.inj hpair
  rw [hshortest]
  exact of_onGrid?_eq_some hdigits

end MathNotes.Single
