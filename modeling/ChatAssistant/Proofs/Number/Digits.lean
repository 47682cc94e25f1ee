import ChatAssistant.Proofs.Number.Canonical
import ChatAssistant.Proofs.Number.Shortest
import Mathlib.Data.Nat.Cast.Order.Field

/-!
# Seventeen digits

The shortest decimal of a double is rounded to the double: on the grid of seventeen digits one of the two
neighbours is near enough, and the search passes that grid.
-/

namespace ChatAssistant.Number

/-! ## Decimals -/

namespace Decimal

/-- The number that a decimal stands for. -/
def size (d : Decimal) : ℚ := d.digits * 10 ^ d.exponent

theorem snd_ratio_pos (d : Decimal) : 0 < d.ratio.2 := by
  unfold ratio
  split
  · exact Nat.one_pos
  · exact Nat.pow_pos (by decide)

theorem ratio_div (d : Decimal) : (d.ratio.1 : ℚ) / d.ratio.2 = d.size :=
  scaled_div 10 d.digits d.exponent

theorem readsAs_iff {x : Finite double} {d : Decimal} :
    d.readsAs x = true ↔
      Finite.ofRatio? double x.negative d.ratio.1 d.ratio.2 = some x := by
  rw [Finite.ofRatio?_withSign]
  unfold readsAs
  dsimp only
  cases Finite.ofRatio? double false d.ratio.1 d.ratio.2 with
  | none => simp
  | some y =>
    obtain ⟨negative, significand, exponent⟩ := x
    simp

theorem readsAs_congr {x : Finite double} {d d' : Decimal} (h : d.size = d'.size) :
    d.readsAs x = true ↔ d'.readsAs x = true := by
  rw [readsAs_iff, readsAs_iff, Finite.ofRatio?_congr d.snd_ratio_pos d'.snd_ratio_pos
    (by rw [ratio_div, ratio_div, h])]

theorem size_stripZeros (fuel : Nat) (d : Decimal) : (d.stripZeros fuel).size = d.size := by
  induction fuel generalizing d with
  | zero => rfl
  | succ fuel ih =>
    rw [stripZeros]
    split
    · next hzero =>
      rw [ih]
      obtain ⟨n, hn⟩ : ∃ n, d.digits = 10 * n := ⟨d.digits / 10, by omega⟩
      unfold size
      dsimp only
      rw [hn, Nat.mul_div_cancel_left n (by decide), zpow_add₀ (by norm_num)]
      push_cast
      ring
    · rfl

end Decimal

/-! ## The magnitude -/

theorem ten_zpow_le {num den : Nat} (hden : 0 < den) {k : Int}
    (h : ¬if 0 ≤ k then num < den * Nat.pow 10 k.toNat else num * Nat.pow 10 (-k).toNat < den) :
    (10 : ℚ) ^ k ≤ num / den := by
  rw [le_div_iff₀ (Nat.cast_pos.mpr hden)]
  by_cases hk : 0 ≤ k
  · rw [if_pos hk, Nat.not_lt, ← Nat.cast_le (α := ℚ), Nat.cast_mul, cast_pow_toNat 10 hk] at h
    rwa [mul_comm]
  · rw [if_neg hk, Nat.not_lt, ← Nat.cast_le (α := ℚ), Nat.cast_mul, cast_pow_toNat 10 (by omega), zpow_neg] at h
    rwa [mul_comm, ← le_mul_inv_iff₀ (by positivity)]

-- The search upwards stops at its start, or where the power before was not large enough.
theorem magnitudeFrom_lower (num : Nat) {den : Nat} (hden : 0 < den) (fuel : Nat) (k : Int) :
    magnitudeFrom num den fuel k = k ∨ (10 : ℚ) ^ (magnitudeFrom num den fuel k - 1) ≤ num / den := by
  induction fuel generalizing k with
  | zero => exact .inl rfl
  | succ fuel ih =>
    rw [magnitudeFrom]
    by_cases hbelow : if 0 ≤ k then num < den * Nat.pow 10 k.toNat else num * Nat.pow 10 (-k).toNat < den
    · exact .inl (if_pos hbelow)
    · right
      rw [if_neg hbelow]
      rcases ih (k + 1) with hstart | hlow
      · rw [hstart, Int.add_sub_cancel]
        exact ten_zpow_le hden hbelow
      · exact hlow

-- The logarithm of two is a little more than three tenths.
theorem ten_pow_le_two_pow {n t : Nat} (h : 10 * n ≤ 3 * t) : 10 ^ n ≤ 2 ^ t :=
  pow_le_pow_of_scale (a := 10) (b := 2) (p := 3) (q := 10) (by decide) (by decide) (by decide) h

theorem ten_zpow_estimate_le {b : Int} (hb : b ≤ 1024) :
    (10 : ℚ) ^ (Int.fdiv (b * 30103) 100000 - 2) ≤ 2 ^ b := by
  rw [Int.fdiv_eq_ediv_of_nonneg _ (by decide)]
  rcases le_total 0 b with hsign | hsign
  · obtain ⟨t, rfl⟩ := Int.eq_ofNat_of_zero_le hsign
    have hle : (10 : ℚ) ^ ((t : Int) * 30103 / 100000 - 2) ≤
        10 ^ (((t : Int) * 30103 / 100000 - 2).toNat : Int) :=
      zpow_le_zpow_right₀ (by norm_num) (Int.self_le_toNat _)
    refine hle.trans ?_
    have hpow := ten_pow_le_two_pow (n := ((t : Int) * 30103 / 100000 - 2).toNat) (t := t) (by omega)
    rw [zpow_natCast, zpow_natCast]
    exact_mod_cast hpow
  · obtain ⟨c, hc⟩ := Int.eq_ofNat_of_zero_le (show 0 ≤ -b by omega)
    obtain ⟨j, hj⟩ := Int.eq_ofNat_of_zero_le (show 0 ≤ -(b * 30103 / 100000 - 2) by omega)
    rw [show b * 30103 / 100000 - 2 = -(j : Int) by omega, show b = -(c : Int) by omega, zpow_neg, zpow_neg,
      zpow_natCast, zpow_natCast]
    have hpow := two_pow_le_ten_pow (n := c) (t := j) (by omega)
    refine inv_anti₀ (by positivity) ?_
    exact_mod_cast hpow

namespace Finite

variable {x : Finite double}

theorem fst_ratio_pos (hne : x.significand ≠ 0) : 0 < x.ratio.1 := by
  unfold ratio
  split
  · exact Nat.mul_pos (Nat.pos_of_ne_zero hne) (Nat.pow_pos (by decide))
  · exact Nat.pos_of_ne_zero hne

theorem Canonical.size_lt (hx : x.Canonical) : x.size < 2 ^ (1024 : Int) := by
  have hbound : (x.significand : ℚ) < 2 ^ (53 : Int) := by exact_mod_cast hx.bound
  have hpow : (0 : ℚ) < 2 ^ x.exponent := by positivity
  calc x.size < 2 ^ (53 : Int) * 2 ^ x.exponent := mul_lt_mul_of_pos_right hbound hpow
    _ = 2 ^ (53 + x.exponent) := (zpow_add₀ (by norm_num) _ _).symm
    _ ≤ 2 ^ (1024 : Int) := zpow_le_zpow_right₀ (by norm_num) (by have := hx.high; omega)

/-- The value has at least as many digits before the point as the estimate says. -/
theorem Canonical.ten_pow_le_size (hx : x.Canonical) (hne : x.significand ≠ 0) :
    (10 : ℚ) ^ (magnitude x.ratio.1 x.ratio.2 - 1) ≤ x.size := by
  have hbits := (log2_bounds (fst_ratio_pos hne) x.snd_ratio_pos).1
  rw [ratio_div] at hbits
  have hb : (x.ratio.1.log2 : Int) - x.ratio.2.log2 - 1 ≤ 1024 :=
    ((zpow_lt_zpow_iff_right₀ (by norm_num : (1 : ℚ) < 2)).mp (hbits.trans hx.size_lt)).le
  rw [← ratio_div]
  unfold magnitude
  dsimp only
  rcases magnitudeFrom_lower x.ratio.1 x.snd_ratio_pos 4
    (Int.fdiv (((x.ratio.1.log2 : Int) - x.ratio.2.log2 - 1) * 30103) 100000 - 1) with hstart | hlow
  · rw [hstart, ratio_div, show ∀ z : Int, z - 1 - 1 = z - 2 by intro z; ring]
    exact (ten_zpow_estimate_le hb).trans hbits.le
  · exact hlow

/-! ## Neighbours -/

-- The digits of the lower neighbour are the value in units of the grid, without what is after the point.
theorem exists_units (x : Finite double) (k : Int) :
    ∃ n d : Nat, 0 < d ∧ (neighbours x k).1.digits = n / d ∧ (n : ℚ) / d = x.size / 10 ^ k := by
  have hden := x.snd_ratio_pos
  rw [← ratio_div]
  unfold neighbours
  dsimp only
  by_cases hk : 0 ≤ k
  · obtain ⟨j, rfl⟩ := Int.eq_ofNat_of_zero_le hk
    rw [if_pos hk, Int.toNat_natCast, Nat.pow_eq, zpow_natCast]
    refine ⟨_, _, Nat.mul_pos hden (Nat.pow_pos (by decide)), rfl, ?_⟩
    rw [div_div]
    push_cast
    rfl
  · obtain ⟨j, hj⟩ := Int.eq_ofNat_of_zero_le (show 0 ≤ -k by omega)
    rw [if_neg hk, hj, Int.toNat_natCast, Nat.pow_eq, show k = -(j : Int) by omega, zpow_neg, zpow_natCast,
      div_inv_eq_mul, div_mul_eq_mul_div]
    refine ⟨_, _, hden, rfl, ?_⟩
    push_cast
    rfl

/-- The value lies between its neighbours. -/
theorem neighbours_bounds (x : Finite double) (k : Int) :
    (neighbours x k).1.size ≤ x.size ∧ x.size < (neighbours x k).2.size ∧
      (neighbours x k).2.size = (neighbours x k).1.size + 10 ^ k := by
  obtain ⟨n, d, hd, hdigits, hunits⟩ := exists_units x k
  have hd' : (0 : ℚ) < d := Nat.cast_pos.mpr hd
  have hpow : (0 : ℚ) < 10 ^ k := by positivity
  have hlower : (neighbours x k).1.size = (n / d : Nat) * 10 ^ k := by rw [← hdigits]; rfl
  have hupper : (neighbours x k).2.size = ((n / d : Nat) + 1) * 10 ^ k := by
    rw [← hdigits]
    change (((neighbours x k).1.digits + 1 : Nat) : ℚ) * 10 ^ k = _
    push_cast
    rfl
  rw [hlower, hupper, ← le_div_iff₀ hpow, ← div_lt_iff₀ hpow, ← hunits]
  refine ⟨Nat.cast_div_le, ?_, by ring⟩
  rw [div_lt_iff₀ hd', mul_comm]
  exact_mod_cast Nat.lt_mul_div_succ n hd

/-- On the grid of seventeen digits one of the neighbours reads as the value. -/
theorem Canonical.isSome_onGrid? (hx : x.Canonical) (hne : x.significand ≠ 0) :
    (onGrid? x (magnitude x.ratio.1 x.ratio.2 - 17)).isSome = true := by
  have hmagnitude := hx.ten_pow_le_size hne
  generalize magnitude x.ratio.1 x.ratio.2 = m at hmagnitude ⊢
  obtain ⟨hlow, hhigh, hstep⟩ := neighbours_bounds x (m - 17)
  have hspacing : (10 : ℚ) ^ (m - 17) ≤ x.size / 10 ^ 16 := by
    rw [le_div_iff₀ (by norm_num), ← zpow_natCast, ← zpow_add₀ (by norm_num)]
    refine le_of_eq_of_le ?_ hmagnitude
    congr 1
    push_cast
    ring
  have hreads : ∀ d : Decimal, x.Near d.size → d.readsAs x = true := fun d hnear =>
    Decimal.readsAs_iff.mpr (ofRatio?_of_near hx hne d.snd_ratio_pos (d.ratio_div.symm ▸ hnear))
  have hhalf : x.size / (2 * 10 ^ 16) = x.size / 10 ^ 16 / 2 := by ring
  have hnear : (neighbours x (m - 17)).1.readsAs x = true ∨ (neighbours x (m - 17)).2.readsAs x = true := by
    rcases le_total (x.size - (neighbours x (m - 17)).1.size) ((neighbours x (m - 17)).2.size - x.size) with
      hnearer | hnearer
    · refine .inl (hreads _ ?_)
      rw [Near, hhalf, abs_le]
      constructor <;> linarith
    · refine .inr (hreads _ ?_)
      rw [Near, hhalf, abs_le]
      constructor <;> linarith
  unfold onGrid?
  dsimp only
  split <;> simp_all

/-! ## The search -/

theorem readsAs_shortestFrom {fuel : Nat} {k : Int} (h : ∃ j < fuel, (onGrid? x (k - (j : Nat))).isSome = true) :
    (shortestFrom x fuel k).readsAs x = true := by
  induction fuel generalizing k with
  | zero =>
    obtain ⟨j, hj, -⟩ := h
    exact absurd hj (Nat.not_lt_zero j)
  | succ fuel ih =>
    rw [shortestFrom]
    cases hgrid : onGrid? x k with
    | some d => exact (onGrid?_eq_some hgrid).2
    | none =>
      refine ih ?_
      obtain ⟨j, hj, hfound⟩ := h
      cases j with
      | zero =>
        rw [Nat.cast_zero, Int.sub_zero, hgrid] at hfound
        cases hfound
      | succ j =>
        refine ⟨j, by omega, ?_⟩
        rwa [show k - 1 - (j : Int) = k - (j + 1 : Nat) by push_cast; ring]

/-- The shortest decimal reads as the value. -/
theorem Canonical.readsAs_shortest (hx : x.Canonical) (hne : x.isZero = false) :
    x.shortest.readsAs x = true := by
  have hsignificand : x.significand ≠ 0 := by simpa [isZero] using hne
  unfold shortest
  rw [hne]
  refine (Decimal.readsAs_congr (Decimal.size_stripZeros 18 _)).mpr (readsAs_shortestFrom ⟨17, by decide, ?_⟩)
  exact hx.isSome_onGrid? hsignificand

end Finite

end ChatAssistant.Number
