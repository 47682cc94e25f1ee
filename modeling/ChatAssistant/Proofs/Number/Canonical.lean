import ChatAssistant.Proofs.Number.Rounding
import Mathlib.Algebra.Order.Field.Power
import Mathlib.Data.Rat.Cast.Order
import Mathlib.Tactic.FieldSimp
import Mathlib.Tactic.Linarith
import Mathlib.Tactic.NormNum
import Mathlib.Tactic.Positivity
import Mathlib.Tactic.Ring

/-!
# Rounding to doubles

A quotient is rounded at the exponent that fills the significand, or at the least one.  What comes out has
one representation only, it depends on the quotient alone, and everything near a double is rounded to it.
-/

namespace ChatAssistant.Number

/-! ## Units -/

theorem cast_pow_toNat (b : Nat) {e : Int} (he : 0 ≤ e) : ((Nat.pow b e.toNat : Nat) : ℚ) = (b : ℚ) ^ e := by
  rw [Nat.pow_eq, Nat.cast_pow, ← zpow_natCast, Int.toNat_of_nonneg he]

/-- A power of a base, where a numerator and a denominator keep the exponent natural. -/
theorem scaled_div (b n : Nat) (e : Int) :
    (((if 0 ≤ e then (n * Nat.pow b e.toNat, 1) else (n, Nat.pow b (-e).toNat)) : Nat × Nat).1 : ℚ) /
      (((if 0 ≤ e then (n * Nat.pow b e.toNat, 1) else (n, Nat.pow b (-e).toNat)) : Nat × Nat).2 : ℚ) =
        n * (b : ℚ) ^ e := by
  by_cases he : 0 ≤ e
  · rw [if_pos he, Nat.cast_mul, cast_pow_toNat b he, Nat.cast_one, div_one]
  · rw [if_neg he, cast_pow_toNat b (by omega), zpow_neg, div_inv_eq_mul]

theorem inUnits_div (num den : Nat) (e : Int) :
    ((inUnits num den e).1 : ℚ) / (inUnits num den e).2 = (num : ℚ) / den / 2 ^ e := by
  unfold inUnits
  by_cases he : 0 ≤ e
  · rw [if_pos he, Nat.cast_mul, cast_pow_toNat 2 he, div_div, Nat.cast_ofNat]
  · rw [if_neg he, Nat.cast_mul, cast_pow_toNat 2 (by omega), zpow_neg, Nat.cast_ofNat, div_eq_mul_inv _ (2 ^ e),
      div_mul_eq_mul_div]

/-! ## The nearest integer -/

theorem roundHalfEven_eq_of_near {n d s : Nat} (hd : 0 < d) (hlow : (s : ℚ) - 1 / 2 < n / d)
    (hhigh : (n : ℚ) / d < s + 1 / 2) : roundHalfEven n d = s := by
  have hd' : (0 : ℚ) < d := Nat.cast_pos.mpr hd
  rw [lt_div_iff₀ hd'] at hlow
  rw [div_lt_iff₀ hd'] at hhigh
  have hlow' : 2 * s * d < 2 * n + d := by
    have h : (2 * s * d : ℚ) < 2 * n + d := by linarith
    exact_mod_cast h
  have hhigh' : 2 * n < 2 * s * d + d := by
    have h : (2 * n : ℚ) < 2 * s * d + d := by linarith
    exact_mod_cast h
  have hdiv := Nat.div_add_mod n d
  have hmod := Nat.mod_lt n hd
  unfold roundHalfEven
  dsimp only
  generalize n / d = q at *
  generalize n % d = r at *
  -- The quotient is `s`, or one less with a rest of more than one half.
  rcases Nat.lt_trichotomy q s with hq | rfl | hq
  · obtain ⟨j, rfl⟩ : ∃ j, s = q + 1 + j := ⟨s - q - 1, by omega⟩
    have hj : j = 0 := by
      by_contra hj
      nlinarith [Nat.mul_le_mul_right d (show 1 ≤ j by omega)]
    subst hj
    have hr : d < 2 * r := by nlinarith
    rw [if_neg (by omega), if_pos hr]
  · have hr : 2 * r < d := by nlinarith
    rw [if_pos hr]
  · exfalso
    obtain ⟨j, rfl⟩ : ∃ j, q = s + 1 + j := ⟨q - s - 1, by omega⟩
    nlinarith [Nat.zero_le (d * j)]

theorem roundHalfEven_eq_zero {n d : Nat} (hd : 0 < d) (h : (n : ℚ) / d < 1 / 2) : roundHalfEven n d = 0 := by
  have hpos : (0 : ℚ) ≤ n / d := by positivity
  refine roundHalfEven_eq_of_near hd ?_ ?_ <;> rw [Nat.cast_zero] <;> linarith

theorem roundHalfEven_mul {n d c : Nat} (hc : 0 < c) : roundHalfEven (n * c) (d * c) = roundHalfEven n d := by
  unfold roundHalfEven
  dsimp only
  rw [Nat.mul_div_mul_right _ _ hc, Nat.mul_mod_mul_right, ← Nat.mul_assoc]
  simp only [Nat.mul_lt_mul_right hc]

theorem roundHalfEven_congr {n d n' d' : Nat} (hd : 0 < d) (hd' : 0 < d') (h : (n : ℚ) / d = n' / d') :
    roundHalfEven n d = roundHalfEven n' d' := by
  rw [div_eq_div_iff (Nat.cast_ne_zero.mpr hd.ne') (Nat.cast_ne_zero.mpr hd'.ne')] at h
  have hcross : n * d' = n' * d := by exact_mod_cast h
  rw [← roundHalfEven_mul hd', hcross, Nat.mul_comm d d', roundHalfEven_mul hd]

theorem le_roundHalfEven {n d s : Nat} (hd : 0 < d) (h : (s : ℚ) ≤ n / d) : s ≤ roundHalfEven n d := by
  rw [le_div_iff₀ (Nat.cast_pos.mpr hd)] at h
  have hq : s ≤ n / d := (Nat.le_div_iff_mul_le hd).mpr (by exact_mod_cast h)
  unfold roundHalfEven
  dsimp only
  split
  · exact hq
  · split
    · omega
    · split <;> omega

theorem roundHalfEven_le_of_lt {n d s : Nat} (hd : 0 < d) (h : (n : ℚ) / d < s) : roundHalfEven n d ≤ s := by
  rw [div_lt_iff₀ (Nat.cast_pos.mpr hd)] at h
  have hq : n / d < s := (Nat.div_lt_iff_lt_mul hd).mpr (by exact_mod_cast h)
  unfold roundHalfEven
  dsimp only
  split
  · omega
  · split
    · omega
    · split <;> omega

/-! ## The exponent -/

/-- In units of `2 ^ e` the number fills the significand of a double. -/
def Fills (r : ℚ) (e : Int) : Prop := 2 ^ 52 ≤ r / 2 ^ e ∧ r / 2 ^ e < 2 ^ 53

theorem Fills.pred {r : ℚ} {e : Int} (hlow : 2 ^ 51 ≤ r / 2 ^ e) (hhigh : r / 2 ^ e < 2 ^ 52) :
    Fills r (e - 1) := by
  have hunit : r / 2 ^ (e - 1) = 2 * (r / 2 ^ e) := by
    rw [zpow_sub_one₀ (by norm_num)]
    ring
  rw [Fills, hunit]
  constructor <;> linarith

theorem Fills.le {r : ℚ} {e e' : Int} (h : Fills r e) (h' : r / 2 ^ e' < 2 ^ 53) : e ≤ e' := by
  by_contra hlt
  obtain ⟨k, hk⟩ := Int.eq_ofNat_of_zero_le (show 0 ≤ e - e' - 1 by omega)
  have hscale : r / 2 ^ e' = r / 2 ^ e * (2 * 2 ^ k) := by
    rw [show e = e' + (k + 1 : Nat) by omega, zpow_add₀ (by norm_num), zpow_natCast, pow_succ]
    field_simp
  have hone : (1 : ℚ) ≤ 2 ^ k := one_le_pow₀ (by norm_num)
  have hdouble : (2 : ℚ) ^ 53 ≤ r / 2 ^ e * (2 * 2 ^ k) := by nlinarith [h.1]
  exact absurd h' (not_lt.mpr (hscale ▸ hdouble))

theorem Fills.unique {r : ℚ} {e e' : Int} (h : Fills r e) (h' : Fills r e') : e = e' :=
  le_antisymm (h.le h'.2) (h'.le h.2)

theorem Fills.lt_of_le {r : ℚ} {e e' : Int} (h : Fills r e) (he : e ≤ e') : r / 2 ^ e' < 2 ^ 53 := by
  have hpow : (0 : ℚ) < 2 ^ e := by positivity
  have hr : 0 ≤ r := by
    have := (le_div_iff₀ hpow).mp h.1
    exact le_trans (by positivity) this
  refine lt_of_le_of_lt (div_le_div_of_nonneg_left hr hpow ?_) h.2
  exact zpow_le_zpow_right₀ (by norm_num) he

theorem two_pow_log2_le {n : Nat} (hn : 0 < n) : (2 : ℚ) ^ (n.log2 : Int) ≤ n ∧ (n : ℚ) < 2 ^ ((n.log2 : Int) + 1) := by
  have hlow := Nat.log2_self_le hn.ne'
  have hhigh := Nat.lt_log2_self (n := n)
  rw [← Nat.cast_succ, zpow_natCast, zpow_natCast]
  exact ⟨by exact_mod_cast hlow, by exact_mod_cast hhigh⟩

/-- A quotient lies between the powers of two that the logarithms tell. -/
theorem log2_bounds {num den : Nat} (hnum : 0 < num) (hden : 0 < den) :
    (2 : ℚ) ^ ((num.log2 : Int) - den.log2 - 1) < num / den ∧
      (num : ℚ) / den < 2 ^ ((num.log2 : Int) - den.log2 + 1) := by
  obtain ⟨hnlow, hnhigh⟩ := two_pow_log2_le hnum
  obtain ⟨hdlow, hdhigh⟩ := two_pow_log2_le hden
  have hden' : (0 : ℚ) < den := Nat.cast_pos.mpr hden
  have hpow : (0 : ℚ) < 2 ^ ((num.log2 : Int) - den.log2 - 1) := by positivity
  have hpow' : (0 : ℚ) < 2 ^ ((num.log2 : Int) - den.log2 + 1) := by positivity
  rw [lt_div_iff₀ hden', div_lt_iff₀ hden']
  constructor
  · calc (2 : ℚ) ^ ((num.log2 : Int) - den.log2 - 1) * den
        < 2 ^ ((num.log2 : Int) - den.log2 - 1) * 2 ^ ((den.log2 : Int) + 1) := mul_lt_mul_of_pos_left hdhigh hpow
      _ = 2 ^ (num.log2 : Int) := by rw [← zpow_add₀ (by norm_num)]; congr 1; ring
      _ ≤ num := hnlow
  · calc (num : ℚ) < 2 ^ ((num.log2 : Int) + 1) := hnhigh
      _ = 2 ^ ((num.log2 : Int) - den.log2 + 1) * 2 ^ (den.log2 : Int) := by
        rw [← zpow_add₀ (by norm_num)]; congr 1; ring
      _ ≤ 2 ^ ((num.log2 : Int) - den.log2 + 1) * den := mul_le_mul_of_nonneg_left hdlow hpow'.le

theorem exists_fills_lastBit {num den : Nat} (hnum : 0 < num) (hden : 0 < den) :
    ∃ e, Fills (num / den) e ∧ Finite.lastBit double num den = max (-1074) e := by
  obtain ⟨hlow, hhigh⟩ := log2_bounds hnum hden
  unfold Finite.lastBit
  dsimp only
  have he : (num.log2 : Int) - den.log2 - double.precision + 1 = (num.log2 : Int) - den.log2 - 52 := by
    simp only [double]
    omega
  rw [he]
  have hpow : (0 : ℚ) < 2 ^ ((num.log2 : Int) - den.log2 - 52) := by positivity
  -- In these units the quotient has fifty-two or fifty-three bits.
  have hlow' : 2 ^ 51 ≤ (num : ℚ) / den / 2 ^ ((num.log2 : Int) - den.log2 - 52) := by
    rw [le_div_iff₀ hpow, ← zpow_natCast, ← zpow_add₀ (by norm_num)]
    refine le_trans (le_of_eq ?_) hlow.le
    congr 1
    push_cast
    ring
  have hhigh' : (num : ℚ) / den / 2 ^ ((num.log2 : Int) - den.log2 - 52) < 2 ^ 53 := by
    rw [div_lt_iff₀ hpow, ← zpow_natCast, ← zpow_add₀ (by norm_num)]
    refine lt_of_lt_of_eq hhigh ?_
    congr 1
    push_cast
    ring
  have hunits := inUnits_div num den ((num.log2 : Int) - den.log2 - 52)
  have hpos : 0 < (inUnits num den ((num.log2 : Int) - den.log2 - 52)).2 := snd_inUnits_pos hden _
  generalize (num.log2 : Int) - den.log2 - 52 = e at *
  generalize inUnits num den e = units at *
  have hpos' : (0 : ℚ) < units.2 := Nat.cast_pos.mpr hpos
  by_cases hshort : units.1 / units.2 < Nat.pow 2 (double.precision - 1)
  · rw [if_pos hshort]
    refine ⟨e - 1, Fills.pred hlow' ?_, rfl⟩
    rw [Nat.div_lt_iff_lt_mul hpos] at hshort
    rw [← hunits, div_lt_iff₀ hpos']
    exact_mod_cast hshort
  · rw [if_neg hshort]
    refine ⟨e, ⟨?_, hhigh'⟩, rfl⟩
    rw [Nat.not_lt, Nat.le_div_iff_mul_le hpos] at hshort
    rw [← hunits, le_div_iff₀ hpos']
    exact_mod_cast hshort

/-- The exponent that a quotient is rounded at. -/
theorem lastBit_eq {num den : Nat} (hnum : 0 < num) (hden : 0 < den) {e : Int} (h : Fills (num / den) e) :
    Finite.lastBit double num den = max (-1074) e := by
  obtain ⟨e', he', hbit⟩ := exists_fills_lastBit hnum hden
  rw [hbit, h.unique he']

/-! ## The rounded quotient -/

namespace Finite

/-- The magnitude of a value. -/
def size (x : Finite double) : ℚ := x.significand * 2 ^ x.exponent

theorem ratio_div (x : Finite double) : (x.ratio.1 : ℚ) / x.ratio.2 = x.size :=
  scaled_div 2 x.significand x.exponent

/-- The representation that rounding yields: the significand is full, or the exponent the least. -/
structure Canonical (x : Finite double) : Prop where
  low : -1074 ≤ x.exponent
  high : x.exponent ≤ 971
  bound : x.significand < 2 ^ 53
  full : x.exponent = -1074 ∨ 2 ^ 52 ≤ x.significand

theorem Canonical.withSign {x : Finite double} (h : x.Canonical) (negative : Bool) :
    ({ x with negative } : Finite double).Canonical := ⟨h.low, h.high, h.bound, h.full⟩

theorem canonical_zero (negative : Bool) : (zero double negative).Canonical :=
  ⟨Int.le_refl _, by decide +revert, Nat.pow_pos (by decide), .inl rfl⟩

/-- What a significand and its exponent are rounded to: a carry makes the significand half as large. -/
def carried (negative : Bool) (m : Nat) (e : Int) : Option (Finite double) :=
  if m = 2 ^ 53 then (if 971 < e + 1 then none else some ⟨negative, 2 ^ 52, e + 1⟩)
  else (if 971 < e then none else some ⟨negative, m, e⟩)

theorem ofRatio?_eq {num den : Nat} (hnum : num ≠ 0) (negative : Bool) :
    ofRatio? double negative num den =
      carried negative (roundHalfEven (inUnits num den (lastBit double num den)).1
        (inUnits num den (lastBit double num den)).2) (lastBit double num den) := by
  rw [ofRatio?, if_neg hnum, carried]
  dsimp only
  generalize roundHalfEven _ _ = m
  by_cases hm : m = 2 ^ 53
  · have hpair : (if m = Nat.pow 2 double.precision then (Nat.pow 2 (double.precision - 1),
        lastBit double num den + 1) else (m, lastBit double num den)) =
          (2 ^ 52, lastBit double num den + 1) := if_pos hm
    rw [hpair, if_pos hm]
    rfl
  · have hpair : (if m = Nat.pow 2 double.precision then (Nat.pow 2 (double.precision - 1),
        lastBit double num den + 1) else (m, lastBit double num den)) = (m, lastBit double num den) := if_neg hm
    rw [hpair, if_neg hm]
    rfl

-- At the exponent of the last bit a quotient is below the carry, and full unless the exponent is the least.
theorem lastBit_bounds {num den : Nat} (hnum : 0 < num) (hden : 0 < den) :
    -1074 ≤ lastBit double num den ∧ (num : ℚ) / den / 2 ^ lastBit double num den < 2 ^ 53 ∧
      (lastBit double num den = -1074 ∨ 2 ^ 52 ≤ (num : ℚ) / den / 2 ^ lastBit double num den) := by
  obtain ⟨e, hfills, hbit⟩ := exists_fills_lastBit hnum hden
  rw [hbit]
  refine ⟨le_max_left _ _, hfills.lt_of_le (le_max_right _ _), ?_⟩
  rcases le_total e (-1074) with he | he
  · exact .inl (max_eq_left he)
  · rw [max_eq_right he]
    exact .inr hfills.1

/-- Every quotient is rounded to a value in the one representation. -/
theorem canonical_of_ofRatio? {num den : Nat} {negative : Bool} {x : Finite double} (hden : 0 < den)
    (h : ofRatio? double negative num den = some x) : x.Canonical := by
  by_cases hnum : num = 0
  · rw [ofRatio?, if_pos hnum] at h
    cases h
    exact canonical_zero negative
  · rw [ofRatio?_eq hnum] at h
    obtain ⟨hlow, hbelow, hfull⟩ := lastBit_bounds (Nat.pos_of_ne_zero hnum) hden
    have hpos : 0 < (inUnits num den (lastBit double num den)).2 := snd_inUnits_pos hden _
    rw [← inUnits_div] at hbelow hfull
    have hbound : roundHalfEven (inUnits num den (lastBit double num den)).1
        (inUnits num den (lastBit double num den)).2 ≤ 2 ^ 53 :=
      roundHalfEven_le_of_lt hpos (by exact_mod_cast hbelow)
    have hfull' : lastBit double num den = -1074 ∨ 2 ^ 52 ≤ roundHalfEven
        (inUnits num den (lastBit double num den)).1 (inUnits num den (lastBit double num den)).2 :=
      hfull.imp id fun hfull => le_roundHalfEven hpos (by exact_mod_cast hfull)
    generalize roundHalfEven _ _ = m at h hbound hfull'
    unfold carried at h
    split at h
    · split at h
      · cases h
      · cases h
        exact ⟨by dsimp only; omega, by dsimp only; omega, by dsimp only; omega, .inr (le_refl _)⟩
    · split at h
      · cases h
      · cases h
        exact ⟨hlow, by dsimp only; omega, by dsimp only; omega, hfull'⟩

theorem ofRatio?_withSign (negative : Bool) (num den : Nat) :
    ofRatio? double negative num den =
      (ofRatio? double false num den).map fun x => { x with negative } := by
  by_cases hnum : num = 0
  · rw [ofRatio?, ofRatio?, if_pos hnum, if_pos hnum]
    rfl
  · rw [ofRatio?_eq hnum, ofRatio?_eq hnum]
    unfold carried
    split <;> split <;> rfl

/-- Equal quotients are rounded to one value. -/
theorem ofRatio?_congr {num den num' den' : Nat} (hden : 0 < den) (hden' : 0 < den')
    (h : (num : ℚ) / den = num' / den') (negative : Bool) :
    ofRatio? double negative num den = ofRatio? double negative num' den' := by
  have hzero : num = 0 ↔ num' = 0 := by
    rw [div_eq_div_iff (Nat.cast_ne_zero.mpr hden.ne') (Nat.cast_ne_zero.mpr hden'.ne')] at h
    have hcross : num * den' = num' * den := by exact_mod_cast h
    constructor
    · rintro rfl
      rw [Nat.zero_mul, eq_comm, Nat.mul_eq_zero] at hcross
      exact hcross.resolve_right hden.ne'
    · rintro rfl
      rw [Nat.zero_mul, Nat.mul_eq_zero] at hcross
      exact hcross.resolve_right hden'.ne'
  by_cases hnum : num = 0
  · rw [ofRatio?, ofRatio?, if_pos hnum, if_pos (hzero.mp hnum)]
  · have hnum' : num' ≠ 0 := fun hnum' => hnum (hzero.mpr hnum')
    obtain ⟨e, hfills, hbit⟩ := exists_fills_lastBit (Nat.pos_of_ne_zero hnum) hden
    have hbit' := lastBit_eq (Nat.pos_of_ne_zero hnum') hden' (h ▸ hfills)
    rw [ofRatio?_eq hnum, ofRatio?_eq hnum', hbit, hbit']
    congr 1
    refine roundHalfEven_congr (snd_inUnits_pos hden _) (snd_inUnits_pos hden' _) ?_
    rw [inUnits_div, inUnits_div, h]

-- What is rounded to a double that is not zero is neither too small nor too large.
theorem bounds_of_ofRatio? {num den : Nat} {negative : Bool} {x : Finite double} (hden : 0 < den)
    (h : ofRatio? double negative num den = some x) (hne : x.significand ≠ 0) :
    (2 : ℚ) ^ (-1075 : Int) ≤ num / den ∧ (num : ℚ) / den < 2 ^ (1024 : Int) := by
  have hnum : num ≠ 0 := by
    rintro rfl
    rw [ofRatio?, if_pos rfl] at h
    cases h
    exact hne rfl
  rw [ofRatio?_eq hnum] at h
  obtain ⟨hlow, hbelow, -⟩ := lastBit_bounds (Nat.pos_of_ne_zero hnum) hden
  have hpow : (0 : ℚ) < 2 ^ lastBit double num den := by positivity
  have hhigh : lastBit double num den ≤ 971 := by
    unfold carried at h
    split at h <;> split at h
    · cases h
    · omega
    · cases h
    · omega
  constructor
  · by_contra hsmall
    rw [not_le] at hsmall
    have hunits : (num : ℚ) / den / 2 ^ lastBit double num den < 1 / 2 := by
      rw [div_lt_iff₀ hpow]
      refine lt_of_lt_of_le hsmall ?_
      rw [show (1 / 2 : ℚ) = 2 ^ (-1 : Int) by norm_num, ← zpow_add₀ (by norm_num)]
      exact zpow_le_zpow_right₀ (by norm_num) (by omega)
    have hround : roundHalfEven (inUnits num den (lastBit double num den)).1
        (inUnits num den (lastBit double num den)).2 = 0 :=
      roundHalfEven_eq_zero (snd_inUnits_pos hden _) (by rwa [inUnits_div])
    rw [hround, carried, if_neg (by decide)] at h
    split at h
    · cases h
    · cases h
      exact hne rfl
  · rw [div_lt_iff₀ hpow] at hbelow
    refine lt_of_lt_of_le hbelow ?_
    rw [← zpow_natCast, ← zpow_add₀ (by norm_num)]
    exact zpow_le_zpow_right₀ (by norm_num) (by push_cast; omega)

/-! ## Near a double -/

/-- A number that seventeen digits do not tell apart from the value. -/
def Near (x : Finite double) (r : ℚ) : Prop := |r - x.size| ≤ x.size / (2 * 10 ^ 16)

theorem size_pos {x : Finite double} (h : x.significand ≠ 0) : 0 < x.size := by
  have : (0 : ℚ) < x.significand := Nat.cast_pos.mpr (Nat.pos_of_ne_zero h)
  unfold size
  positivity

theorem Near.units {x : Finite double} {r : ℚ} (h : x.Near r) :
    |r / 2 ^ x.exponent - x.significand| ≤ x.significand / (2 * 10 ^ 16) := by
  have hpow : (0 : ℚ) < 2 ^ x.exponent := by positivity
  unfold Near size at h
  have hscale : r / 2 ^ x.exponent - x.significand =
      (r - x.significand * 2 ^ x.exponent) / 2 ^ x.exponent := by
    field_simp
  rw [hscale, abs_div, abs_of_pos hpow, div_le_iff₀ hpow]
  refine le_of_le_of_eq h ?_
  ring

theorem Near.pos {x : Finite double} {r : ℚ} (h : x.Near r) (hne : x.significand ≠ 0) : 0 < r := by
  have hsize := size_pos hne
  have hsmall : x.size / (2 * 10 ^ 16) < x.size := div_lt_self hsize (by norm_num)
  have hlow := (abs_le.mp h).1
  linarith

section Nearest

variable {x : Finite double} {num den : Nat}

-- In the units of the value its significand is the nearest integer.
theorem ofRatio?_of_sameUnits (hx : x.Canonical) (hnum : num ≠ 0) (hden : 0 < den)
    (hbit : lastBit double num den = x.exponent)
    (hlow : (x.significand : ℚ) - 1 / 2 < num / den / 2 ^ x.exponent)
    (hhigh : (num : ℚ) / den / 2 ^ x.exponent < x.significand + 1 / 2) :
    ofRatio? double x.negative num den = some x := by
  have hround : roundHalfEven (inUnits num den x.exponent).1 (inUnits num den x.exponent).2 = x.significand :=
    roundHalfEven_eq_of_near (snd_inUnits_pos hden _) (by rwa [inUnits_div]) (by rwa [inUnits_div])
  rw [ofRatio?_eq hnum, hbit, hround, carried, if_neg hx.bound.ne, if_neg (not_lt.mpr hx.high)]

-- Below a power of two the units are half as large, and the nearest integer is the carry.
theorem ofRatio?_of_halfUnits (hx : x.Canonical) (hnum : num ≠ 0) (hden : 0 < den)
    (hbit : lastBit double num den = x.exponent - 1) (hpower : x.significand = 2 ^ 52)
    (hlow : (2 : ℚ) ^ 52 - 1 / 4 < num / den / 2 ^ x.exponent)
    (hhigh : (num : ℚ) / den / 2 ^ x.exponent < 2 ^ 52) :
    ofRatio? double x.negative num den = some x := by
  have hunit : (num : ℚ) / den / 2 ^ (x.exponent - 1) = 2 * (num / den / 2 ^ x.exponent) := by
    rw [zpow_sub_one₀ (by norm_num)]
    ring
  have hround : roundHalfEven (inUnits num den (x.exponent - 1)).1 (inUnits num den (x.exponent - 1)).2 =
      2 ^ 53 := by
    refine roundHalfEven_eq_of_near (snd_inUnits_pos hden _) ?_ ?_ <;> rw [inUnits_div, hunit] <;>
      push_cast <;> linarith
  have hexponent : ¬971 < x.exponent := not_lt.mpr hx.high
  rw [ofRatio?_eq hnum, hbit, hround, carried, if_pos rfl, Int.sub_add_cancel, if_neg hexponent, ← hpower]

/-- A quotient near a double is rounded to it. -/
theorem ofRatio?_of_near (hx : x.Canonical) (hne : x.significand ≠ 0) (hden : 0 < den)
    (hnear : x.Near (num / den)) : ofRatio? double x.negative num den = some x := by
  have hnum : num ≠ 0 := by
    rintro rfl
    have hpos := hnear.pos hne
    rw [Nat.cast_zero, zero_div] at hpos
    exact lt_irrefl 0 hpos
  obtain ⟨hlow, hhigh⟩ := abs_le.mp hnear.units
  have hone : (1 : ℚ) ≤ x.significand := by exact_mod_cast Nat.one_le_iff_ne_zero.mpr hne
  have hbound : (x.significand : ℚ) + 1 ≤ 2 ^ 53 := by exact_mod_cast hx.bound
  have hbelow : (num : ℚ) / den / 2 ^ x.exponent < 2 ^ 53 := by linarith
  by_cases hsame : x.exponent = -1074 ∨ 2 ^ 52 ≤ (num : ℚ) / den / 2 ^ x.exponent
  · have hbit : lastBit double num den = x.exponent := by
      obtain ⟨e, hfills, hbit⟩ := exists_fills_lastBit (Nat.pos_of_ne_zero hnum) hden
      rcases hsame with hleast | hfull
      · rw [hbit, hleast]
        exact max_eq_left (hleast ▸ hfills.le hbelow)
      · rw [hbit, hfills.unique ⟨hfull, hbelow⟩]
        exact max_eq_right hx.low
    exact ofRatio?_of_sameUnits hx hnum hden hbit (by linarith) (by linarith)
  · rw [not_or, not_le] at hsame
    obtain ⟨hexponent, hshort⟩ := hsame
    have hpower : x.significand = 2 ^ 52 := by
      refine le_antisymm ?_ (hx.full.resolve_left hexponent)
      have hless : (x.significand : ℚ) < 2 ^ 52 + 1 := by linarith
      exact Nat.lt_succ_iff.mp (by exact_mod_cast hless)
    have hvalue : (x.significand : ℚ) = 2 ^ 52 := by exact_mod_cast hpower
    rw [hvalue] at hlow
    have hbit : lastBit double num den = x.exponent - 1 := by
      have hleast := hx.low
      rw [lastBit_eq (Nat.pos_of_ne_zero hnum) hden (Fills.pred (by linarith) hshort)]
      omega
    exact ofRatio?_of_halfUnits hx hnum hden hbit hpower (by linarith) hshort

end Nearest

end Finite

end ChatAssistant.Number
