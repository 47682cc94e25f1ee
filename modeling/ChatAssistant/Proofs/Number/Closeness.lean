import ChatAssistant.Proofs.Number.Canonical

/-!
# Closeness

How far a number is from another one, as a part of the other one.  Sums of small deviations stay small: a
product or a quotient of numbers that are close to others, or a further step, costs two bits.  A quotient
that is rounded to a double is close to it with all fifty-three bits.
-/

namespace ChatAssistant.Number

/-- `a` deviates from `b` by at most the `2 ^ k`th part of `b`. -/
def Close (k : Nat) (a b : ℚ) : Prop := |a - b| ≤ b / 2 ^ k

namespace Close

variable {k : Nat} {a b c d : ℚ}

theorem refl (k : Nat) (h : 0 ≤ b) : Close k b b := by
  rw [Close, sub_self, abs_zero]
  positivity

theorem nonneg (h : Close k a b) : 0 ≤ b := by
  have hpart : 0 ≤ b / 2 ^ k := (abs_nonneg _).trans h
  have hpow : (0 : ℚ) < 2 ^ k := by positivity
  rwa [le_div_iff₀ hpow, zero_mul] at hpart

theorem mono {j : Nat} (h : Close k a b) (hj : j ≤ k) : Close j a b := by
  refine h.trans (div_le_div_of_nonneg_left h.nonneg (by positivity) ?_)
  exact pow_le_pow_right₀ (by norm_num) hj

theorem mul_right (h : Close k a b) (hc : 0 ≤ c) : Close k (a * c) (b * c) := by
  rw [Close, ← sub_mul, abs_mul, abs_of_nonneg hc, mul_div_right_comm]
  exact mul_le_mul_of_nonneg_right h hc

-- Numbers that are close with one bit at least have no more than a factor of two between them.
theorem bounds (h : Close (k + 1) a b) : b / 2 ≤ a ∧ a ≤ 2 * b := by
  have hone : Close 1 a b := h.mono (by omega)
  have hb := hone.nonneg
  rw [Close, pow_one, abs_le] at hone
  constructor <;> linarith [hone.1, hone.2]

theorem trans (hab : Close (k + 2) a b) (hbc : Close (k + 2) b c) : Close k a c := by
  have hb := hbc.bounds.2
  have hpow : (0 : ℚ) < 2 ^ (k + 2) := by positivity
  calc |a - c| ≤ |a - b| + |b - c| := abs_sub_le a b c
    _ ≤ b / 2 ^ (k + 2) + c / 2 ^ (k + 2) := add_le_add hab hbc
    _ ≤ 2 * c / 2 ^ (k + 2) + c / 2 ^ (k + 2) :=
      add_le_add_left (div_le_div_of_nonneg_right hb hpow.le) _
    _ ≤ c / 2 ^ k := by
      have hc := hbc.nonneg
      have hquarter : c / 2 ^ k = 4 * (c / 2 ^ (k + 2)) := by
        rw [pow_add]
        field_simp
        norm_num
      have hpart : 0 ≤ c / 2 ^ (k + 2) := by positivity
      rw [hquarter, mul_div_assoc]
      linarith

theorem mul (hab : Close (k + 2) a b) (hcd : Close (k + 2) c d) : Close k (a * c) (b * d) := by
  have hb := hab.nonneg
  have hd := hcd.nonneg
  have hc := hcd.bounds
  have hc' : 0 ≤ c := by linarith [hc.1]
  have hleft : |a - b| * c ≤ b / 2 ^ (k + 2) * (2 * d) :=
    mul_le_mul hab hc.2 hc' (by positivity)
  have hright : b * |c - d| ≤ b * (d / 2 ^ (k + 2)) := mul_le_mul_of_nonneg_left hcd hb
  calc |a * c - b * d| = |(a - b) * c + b * (c - d)| := by ring_nf
    _ ≤ |(a - b) * c| + |b * (c - d)| := abs_add_le _ _
    _ = |a - b| * c + b * |c - d| := by rw [abs_mul, abs_mul, abs_of_nonneg hc', abs_of_nonneg hb]
    _ ≤ b / 2 ^ (k + 2) * (2 * d) + b * (d / 2 ^ (k + 2)) := add_le_add hleft hright
    _ ≤ b * d / 2 ^ k := by
      have hpart : 0 ≤ b * d / 2 ^ (k + 2) := by positivity
      have hquarter : b * d / 2 ^ k = 4 * (b * d / 2 ^ (k + 2)) := by
        rw [pow_add]
        field_simp
        norm_num
      rw [hquarter]
      calc b / 2 ^ (k + 2) * (2 * d) + b * (d / 2 ^ (k + 2)) = 3 * (b * d / 2 ^ (k + 2)) := by ring
        _ ≤ 4 * (b * d / 2 ^ (k + 2)) := by linarith

-- The inverse of a number deviates by twice as much.
theorem inv (hcd : Close (k + 1) c d) (hd : 0 < d) : Close k c⁻¹ d⁻¹ := by
  have hc := hcd.bounds.1
  have hc' : 0 < c := by linarith
  have hdeviation : |c⁻¹ - d⁻¹| = |c - d| * (c⁻¹ * d⁻¹) := by
    rw [inv_sub_inv hc'.ne' hd.ne', abs_div, abs_sub_comm, abs_of_pos (mul_pos hc' hd), div_eq_mul_inv, mul_inv]
  have hinv : c⁻¹ ≤ 2 * d⁻¹ := by
    rw [← div_eq_mul_inv, inv_le_comm₀ hc' (by positivity), inv_div]
    exact hc
  rw [Close, hdeviation]
  calc |c - d| * (c⁻¹ * d⁻¹) ≤ d / 2 ^ (k + 1) * (2 * d⁻¹ * d⁻¹) :=
        mul_le_mul hcd (mul_le_mul_of_nonneg_right hinv (by positivity)) (by positivity) (by positivity)
    _ = d⁻¹ / 2 ^ k := by
      rw [pow_succ]
      field_simp

end Close

/-! ## Rounding -/

theorem abs_roundHalfEven_sub_le {n d : Nat} (hd : 0 < d) : |(roundHalfEven n d : ℚ) - n / d| ≤ 1 / 2 := by
  have hd' : (0 : ℚ) < d := Nat.cast_pos.mpr hd
  have hbounds : 2 * n ≤ 2 * (d * roundHalfEven n d) + d ∧ 2 * (d * roundHalfEven n d) ≤ 2 * n + d := by
    have hdiv := Nat.div_add_mod n d
    have hmod := Nat.mod_lt n hd
    have hnext : d * (n / d + 1) = d * (n / d) + d := Nat.mul_add_one _ _
    unfold roundHalfEven
    dsimp only
    split_ifs <;> omega
  obtain ⟨hlow, hhigh⟩ : (2 * n : ℚ) ≤ 2 * (d * roundHalfEven n d) + d ∧
      2 * (d * roundHalfEven n d) ≤ (2 * n + d : ℚ) := by exact_mod_cast hbounds
  have hscaled : ((roundHalfEven n d : ℚ) - n / d) = (d * roundHalfEven n d - n) / d := by field_simp
  rw [hscaled, abs_le, le_div_iff₀ hd', div_le_iff₀ hd']
  constructor <;> linarith

namespace Finite

-- A carry leaves the number of units as it is.
theorem size_of_carried {negative : Bool} {m : Nat} {e : Int} {x : Finite double}
    (h : carried negative m e = some x) : x.size = m * 2 ^ e := by
  unfold carried at h
  split at h
  · next hm =>
    split at h <;> cases h
    rw [hm, size, zpow_add_one₀ (by norm_num)]
    push_cast
    ring
  · split at h <;> cases h
    rfl

/-- A quotient that is not too small is rounded to a double with all bits. -/
theorem close_of_ofRatio? {num den : Nat} {negative : Bool} {x : Finite double} (hden : 0 < den)
    (hlow : (2 : ℚ) ^ (-1022 : Int) ≤ num / den) (h : ofRatio? double negative num den = some x) :
    Close 53 x.size (num / den) := by
  have hnum : num ≠ 0 := by
    rintro rfl
    rw [Nat.cast_zero, zero_div] at hlow
    exact absurd hlow (not_le.mpr (by positivity))
  rw [ofRatio?_eq hnum] at h
  rw [size_of_carried h]
  obtain ⟨hleast, -, hfull⟩ := lastBit_bounds (Nat.pos_of_ne_zero hnum) hden
  have hround := abs_roundHalfEven_sub_le (n := (inUnits num den (lastBit double num den)).1)
    (@snd_inUnits_pos num den hden (lastBit double num den))
  rw [inUnits_div] at hround
  generalize roundHalfEven _ _ = m at hround ⊢
  generalize lastBit double num den = e at hleast hfull hround ⊢
  have hpow : (0 : ℚ) < 2 ^ e := by positivity
  have hunits : (2 : ℚ) ^ 52 ≤ num / den / 2 ^ e := by
    refine hfull.elim (fun he => ?_) id
    rw [he, le_div_iff₀ (by positivity)]
    refine le_of_eq_of_le ?_ hlow
    rw [← zpow_natCast, ← zpow_add₀ (by norm_num)]
    norm_num
  have hscale : (m : ℚ) * 2 ^ e - num / den = (m - num / den / 2 ^ e) * 2 ^ e := by field_simp
  rw [Close, hscale, abs_mul, abs_of_pos hpow]
  calc |(m : ℚ) - num / den / 2 ^ e| * 2 ^ e ≤ 1 / 2 * 2 ^ e := mul_le_mul_of_nonneg_right hround hpow.le
    _ ≤ num / den / 2 ^ 53 := by
      rw [le_div_iff₀ hpow] at hunits
      rw [le_div_iff₀ (by norm_num)]
      linarith

theorem isZero_eq_false_of_close {k : Nat} {x : Finite double} {q : ℚ} (h : Close (k + 1) x.size q) (hq : 0 < q) :
    x.isZero = false := by
  refine Bool.eq_false_iff.mpr fun hzero => ?_
  have hlow := h.bounds.1
  rw [← ratio_div, fst_ratio_eq_zero.mpr hzero, Nat.cast_zero, zero_div] at hlow
  linarith

end Finite

end ChatAssistant.Number
