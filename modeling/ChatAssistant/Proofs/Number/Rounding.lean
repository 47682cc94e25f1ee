import ChatAssistant.Proofs.Number.Order
import Mathlib.Tactic.Ring
import Mathlib.Tactic.SplitIfs

/-!
# Rounding within a bound

A power of two is a value of its own, so that a quotient which does not exceed it is rounded to a value
that does not exceed it either.
-/

namespace ChatAssistant.Number

-- What is at most an integer is rounded to at most that integer.
theorem roundHalfEven_le {num den bound : Nat} (hden : 0 < den) (h : num ≤ bound * den) :
    roundHalfEven num den ≤ bound := by
  have hdiv := Nat.div_add_mod num den
  have hlow : num / den ≤ bound := (Nat.div_le_iff_le_mul_add_pred hden).mpr (by
    rw [Nat.mul_comm den]; omega)
  unfold roundHalfEven
  by_cases hexact : num / den = bound
  · have hrest : num % den = 0 := by
      rw [hexact, Nat.mul_comm] at hdiv
      omega
    simp only [hrest, Nat.mul_zero, if_pos hden]
    exact hlow
  · dsimp only
    split_ifs <;> omega

/-- `e` is at most `k`, and `n` units of `2 ^ e` make at most `2 ^ k`. -/
def AtMost (k : Nat) (n : Nat) (e : Int) : Prop := e ≤ k ∧ n ≤ 2 ^ (k - e).toNat

theorem inUnits_le {num den k : Nat} {e : Int} (he : e ≤ k) (h : num ≤ 2 ^ k * den) :
    (inUnits num den e).1 ≤ 2 ^ (k - e).toNat * (inUnits num den e).2 := by
  unfold inUnits
  by_cases hsign : 0 ≤ e
  · have hsum : k = (k - e).toNat + e.toNat := by omega
    rw [if_pos hsign]
    calc num ≤ 2 ^ ((k - e).toNat + e.toNat) * den := by rwa [← hsum]
      _ = 2 ^ (k - e).toNat * (den * 2 ^ e.toNat) := by ring
  · have hsum : (k - e).toNat = k + (-e).toNat := by omega
    rw [if_neg hsign, hsum]
    calc num * 2 ^ (-e).toNat ≤ 2 ^ k * den * 2 ^ (-e).toNat := Nat.mul_le_mul_right _ h
      _ = 2 ^ (k + (-e).toNat) * den := by ring

theorem snd_inUnits_pos {num den : Nat} (hden : 0 < den) (e : Int) : 0 < (inUnits num den e).2 := by
  unfold inUnits
  split
  · exact Nat.mul_pos hden (Nat.pow_pos (by decide))
  · exact hden

namespace Finite

variable {f : Format}

/-- The magnitude is at most the power of two. -/
def Within (k : Nat) (x : Finite f) : Prop := x.ratio.1 ≤ 2 ^ k * x.ratio.2

theorem within_of_value_le {x : Finite f} (h : 0 ≤ x.value ∧ x.value ≤ 2) : x.Within 1 := by
  have hden : (0 : ℚ) < x.ratio.2 := Nat.cast_pos.mpr x.snd_ratio_pos
  obtain ⟨hlow, hhigh⟩ := h
  cases hsign : x.negative && !x.isZero with
  | false =>
    rw [value_of_not_below hsign, div_le_iff₀ hden] at hhigh
    exact_mod_cast hhigh
  | true =>
    obtain ⟨hvalue, hpos⟩ := value_of_below hsign
    linarith

theorem within_of_atMost {k : Nat} {x : Finite f} (h : AtMost k x.significand x.exponent) :
    x.Within k := by
  obtain ⟨he, hn⟩ := h
  unfold Within ratio
  by_cases hsign : 0 ≤ x.exponent
  · have hsum : k = (k - x.exponent).toNat + x.exponent.toNat := by omega
    rw [if_pos hsign, Nat.mul_one]
    calc x.significand * 2 ^ x.exponent.toNat
        ≤ 2 ^ (k - x.exponent).toNat * 2 ^ x.exponent.toNat := Nat.mul_le_mul_right _ hn
      _ = 2 ^ k := by rw [← Nat.pow_add, ← hsum]
  · have hsum : (k - x.exponent).toNat = k + (-x.exponent).toNat := by omega
    rw [if_neg hsign]
    calc x.significand ≤ 2 ^ (k + (-x.exponent).toNat) := hsum ▸ hn
      _ = 2 ^ k * 2 ^ (-x.exponent).toNat := Nat.pow_add ..

theorem lastBit_le {num den k : Nat} (hnum : 0 < num) (h : num ≤ 2 ^ k * den) :
    lastBit f num den ≤ max f.minExponent (k - f.precision + 1) := by
  have hlog : num.log2 ≤ k + den.log2 := by
    refine Nat.lt_succ_iff.mp ((Nat.log2_lt hnum.ne').mpr ?_)
    calc num ≤ 2 ^ k * den := h
      _ < 2 ^ k * 2 ^ (den.log2 + 1) :=
        Nat.mul_lt_mul_of_pos_left Nat.lt_log2_self (Nat.pow_pos (by decide))
      _ = 2 ^ (k + den.log2 + 1) := by rw [← Nat.pow_add, Nat.add_assoc]
  unfold lastBit
  dsimp only
  split <;> omega

theorem atMost_carry {k m : Nat} {e : Int} (h : AtMost k m e) (hfull : m = 2 ^ 53) :
    AtMost k (2 ^ 52) (e + 1) := by
  obtain ⟨he, hn⟩ := h
  rw [hfull, Nat.pow_le_pow_iff_right (by decide)] at hn
  exact ⟨by omega, Nat.pow_le_pow_right (by decide) (by omega)⟩

/-- A quotient that is at most a power of two is rounded to a double that is so. -/
theorem exists_ofRatio?_within {num den k : Nat} (negative : Bool) (hk : k ≤ 1000) (hden : 0 < den)
    (h : num ≤ 2 ^ k * den) :
    ∃ y : Finite double, ofRatio? double negative num den = some y ∧ y.Within k := by
  unfold ofRatio?
  by_cases hzero : num = 0
  · exact ⟨_, if_pos hzero, Nat.zero_le _⟩
  rw [if_neg hzero]
  have hbit : lastBit double num den ≤ max (-1074) ((k : Int) - 53 + 1) :=
    lastBit_le (Nat.pos_of_ne_zero hzero) h
  generalize lastBit double num den = e at hbit
  have he : e ≤ k := by omega
  have hround : AtMost k (roundHalfEven (inUnits num den e).1 (inUnits num den e).2) e :=
    ⟨he, roundHalfEven_le (snd_inUnits_pos hden e) (inUnits_le he h)⟩
  dsimp only
  generalize roundHalfEven (inUnits num den e).1 (inUnits num den e).2 = m at hround
  -- A full significand carries into the exponent, which leaves the value as it is.
  by_cases hfull : m = 2 ^ 53
  · have hpair : (if m = Nat.pow 2 double.precision then (Nat.pow 2 (double.precision - 1), e + 1)
        else (m, e)) = (2 ^ 52, e + 1) := if_pos hfull
    refine ⟨⟨negative, 2 ^ 52, e + 1⟩, ?_, within_of_atMost (atMost_carry hround hfull)⟩
    rw [hpair]
    exact if_neg (by simp only [double]; omega)
  · have hpair : (if m = Nat.pow 2 double.precision then (Nat.pow 2 (double.precision - 1), e + 1)
        else (m, e)) = (m, e) := if_neg hfull
    refine ⟨⟨negative, m, e⟩, ?_, within_of_atMost hround⟩
    rw [hpair]
    exact if_neg (by simp only [double]; omega)

end Finite

end ChatAssistant.Number
