import ChatAssistant.Number.Binary
import Mathlib.Algebra.Order.Field.Rat
import Mathlib.Data.Rat.Cast.Order
import Mathlib.Tactic.Linarith

/-!
# The order of binary values

A binary value stands for a rational number, and the order of values is the order of these numbers.  So
a value that is clamped lies between the bounds.
-/

namespace ChatAssistant.Number

variable {f : Format}

namespace Finite

/-- The number that a value stands for. -/
def value (x : Finite f) : ℚ :=
  let magnitude : ℚ := x.ratio.1 / x.ratio.2
  if x.negative then -magnitude else magnitude

theorem snd_ratio_pos (x : Finite f) : 0 < x.ratio.2 := by
  unfold ratio
  split
  · exact Nat.one_pos
  · exact Nat.pow_pos (by decide)

theorem fst_ratio_eq_zero {x : Finite f} : x.ratio.1 = 0 ↔ x.isZero = true := by
  unfold ratio isZero
  rw [beq_iff_eq]
  split
  · exact Nat.mul_eq_zero.trans (or_iff_left (Nat.pow_pos (by decide)).ne')
  · exact Iff.rfl

theorem magnitude_nonneg (x : Finite f) : (0 : ℚ) ≤ x.ratio.1 / x.ratio.2 :=
  div_nonneg (Nat.cast_nonneg _) (Nat.cast_nonneg _)

theorem magnitude_lt_iff (x y : Finite f) :
    (x.ratio.1 : ℚ) / x.ratio.2 < y.ratio.1 / y.ratio.2 ↔
      x.ratio.1 * y.ratio.2 < y.ratio.1 * x.ratio.2 := by
  rw [div_lt_div_iff₀ (Nat.cast_pos.mpr x.snd_ratio_pos) (Nat.cast_pos.mpr y.snd_ratio_pos)]
  exact_mod_cast Iff.rfl

-- A negative zero stands for zero, as a positive one does.
theorem value_of_not_below {x : Finite f} (h : (x.negative && !x.isZero) = false) :
    x.value = x.ratio.1 / x.ratio.2 := by
  unfold value
  by_cases hnegative : x.negative = true
  · have hzero : x.ratio.1 = 0 := by simpa [hnegative, fst_ratio_eq_zero] using h
    simp [hzero]
  · exact if_neg hnegative

theorem value_of_below {x : Finite f} (h : (x.negative && !x.isZero) = true) :
    x.value = -(x.ratio.1 / x.ratio.2) ∧ (0 : ℚ) < x.ratio.1 / x.ratio.2 := by
  obtain ⟨hnegative, hzero⟩ := Bool.and_eq_true_iff.mp h
  refine ⟨if_pos hnegative, div_pos (Nat.cast_pos.mpr ?_) (Nat.cast_pos.mpr x.snd_ratio_pos)⟩
  refine Nat.pos_of_ne_zero fun hfst => ?_
  rw [fst_ratio_eq_zero.mp hfst] at hzero
  cases hzero

theorem lt_iff (x y : Finite f) : x.lt y = true ↔ x.value < y.value := by
  have hx := x.magnitude_nonneg
  have hy := y.magnitude_nonneg
  unfold lt
  cases hxs : x.negative && !x.isZero <;> cases hys : y.negative && !y.isZero
  · rw [value_of_not_below hxs, value_of_not_below hys, magnitude_lt_iff]
    exact decide_eq_true_iff
  · rw [value_of_not_below hxs, (value_of_below hys).1]
    simp only [Bool.false_eq_true, false_iff]
    linarith
  · obtain ⟨hvalue, hpos⟩ := value_of_below hxs
    rw [hvalue, value_of_not_below hys]
    simp only [true_iff]
    linarith
  · rw [(value_of_below hxs).1, (value_of_below hys).1, neg_lt_neg_iff, magnitude_lt_iff]
    exact decide_eq_true_iff

end Finite

theorem Extended.clamp?_bounds {low high x : Finite f} {t : Extended f}
    (hbounds : low.value ≤ high.value) (h : t.clamp? low high = some x) :
    low.value ≤ x.value ∧ x.value ≤ high.value := by
  cases t with
  | finite y =>
    simp only [clamp?, Option.some.injEq] at h
    by_cases hlow : y.lt low = true
    · rw [if_pos hlow] at h
      subst h
      exact ⟨le_refl _, hbounds⟩
    · rw [if_neg hlow] at h
      by_cases hhigh : high.lt y = true
      · rw [if_pos hhigh] at h
        subst h
        exact ⟨hbounds, le_refl _⟩
      · rw [if_neg hhigh] at h
        subst h
        rw [Finite.lt_iff, not_lt] at hlow hhigh
        exact ⟨hlow, hhigh⟩
  | infinite negative =>
    cases negative <;> cases h
    · exact ⟨hbounds, le_refl _⟩
    · exact ⟨le_refl _, hbounds⟩
  | nan => cases h

end ChatAssistant.Number
