import ChatAssistant.Proofs.Json.Layouts
import ChatAssistant.Proofs.Json.Scaling
import ChatAssistant.Proofs.Number.Closeness
import Mathlib.Tactic.LinearCombination

/-!
# How exactly numbers are read

The double of a number is not always the nearest one: only the first digits are taken, and they are scaled by
a rounded power of ten.  Where the number is at least one, the double is close to it all the same.
-/

namespace ChatAssistant.Json

open ChatAssistant.Number

/-! ## The digits that are taken -/

/-- The first digits are taken, so many that a further one would not fit. -/
theorem takeDigits_cases (n : Nat) {ds : List Char} (h : ∀ c ∈ ds, c.isDigit = true) :
    ∃ taken left, ds = taken ++ left ∧
      takeDigits n ds = (n * 10 ^ taken.length + natOfDigits taken, left.length) ∧
      (left = [] ∨ 2 ^ 60 ≤ n * 10 ^ taken.length + natOfDigits taken) := by
  induction ds generalizing n with
  | nil => exact ⟨[], [], rfl, by simp [takeDigits, natOfDigits], .inl rfl⟩
  | cons c ds ih =>
    obtain ⟨hc, hds⟩ := List.forall_mem_cons.mp h
    have hvalue := digitValue_lt_ten hc
    rw [takeDigits]
    by_cases hfits : n * 10 + digitValue c ≤ maxCount
    · obtain ⟨taken, left, rfl, htake, hleft⟩ := ih (n * 10 + digitValue c) hds
      have hsum : (n * 10 + digitValue c) * 10 ^ taken.length + natOfDigits taken =
          n * 10 ^ (c :: taken).length + natOfDigits (c :: taken) := by
        have hlast : natOfDigits [c] = digitValue c := by simp [natOfDigits]
        rw [← List.singleton_append, natOfDigits_append, hlast, List.singleton_append, List.length_cons,
          Nat.pow_succ]
        ring
      rw [hsum] at htake hleft
      exact ⟨c :: taken, left, rfl, by rw [if_pos hfits, htake], hleft⟩
    · refine ⟨[], c :: ds, rfl, by simp [hfits, natOfDigits], .inr ?_⟩
      have hmax : (2 ^ 60 + 1) * 10 ≤ maxCount := by decide
      simp only [List.length_nil, pow_zero, Nat.mul_one, natOfDigits, List.foldl_nil, Nat.add_zero]
      omega

-- What lies between two neighbours that are large is close to all else between them.
theorem close_of_between {a b q u : ℚ} (hu : 0 ≤ u) (hq : (2 : ℚ) ^ 60 ≤ q) (ha : q * u ≤ a ∧ a ≤ (q + 1) * u)
    (hb : q * u ≤ b ∧ b ≤ (q + 1) * u) : Close 60 a b := by
  have hdistance : |a - b| ≤ u := by
    rw [abs_le]
    constructor <;> linarith [ha.1, ha.2, hb.1, hb.2]
  refine hdistance.trans ?_
  rw [le_div_iff₀ (by positivity), mul_comm]
  exact (mul_le_mul_of_nonneg_right hq hu).trans hb.1

/-- All digits of a number are digits. -/
structure Figures (t : DecimalText) : Prop where
  whole : ∀ c ∈ t.whole, c.isDigit = true
  fraction : ∀ c ∈ t.fraction, c.isDigit = true

/-- The digits that are taken of a number. -/
def leading (t : DecimalText) : Nat := (takeDigits (takeDigits 0 t.whole).1 t.fraction).1

/-- The power of ten that the digits which are taken of a number are scaled by. -/
def leadingScale (t : DecimalText) : Int :=
  ((takeDigits 0 t.whole).2 : Int) -
    (t.fraction.length - (takeDigits (takeDigits 0 t.whole).1 t.fraction).2 : Nat) + t.scale

theorem leading_le (t : DecimalText) : leading t ≤ maxCount :=
  fst_takeDigits_le (fst_takeDigits_le (Nat.zero_le maxCount) t.whole) t.fraction

-- A fraction lies between zero and one.
theorem fraction_bounds {ds : List Char} (h : ∀ c ∈ ds, c.isDigit = true) :
    0 ≤ (natOfDigits ds : ℚ) * 10 ^ (-(ds.length : Int)) ∧ (natOfDigits ds : ℚ) * 10 ^ (-(ds.length : Int)) ≤ 1 := by
  have hlt : (natOfDigits ds : ℚ) ≤ 10 ^ ds.length := by exact_mod_cast (natOfDigits_lt_pow h).le
  refine ⟨by positivity, ?_⟩
  rw [zpow_neg, zpow_natCast, ← div_eq_mul_inv, div_le_one (by positivity)]
  exact hlt

theorem size_decimalOf (t : DecimalText) :
    (decimalOf t).size =
      (natOfDigits t.whole + natOfDigits t.fraction * 10 ^ (-(t.fraction.length : Int))) * 10 ^ t.scale := by
  have hpow : (10 : ℚ) ^ (t.fraction.length : Int) * 10 ^ (-(t.fraction.length : Int)) = 1 := by
    rw [← zpow_add₀ (by norm_num), add_neg_cancel, zpow_zero]
  unfold decimalOf Decimal.size
  dsimp only
  rw [natOfDigits_append, sub_eq_add_neg, add_comm t.scale, zpow_add₀ (by norm_num)]
  push_cast
  rw [← zpow_natCast, ← mul_assoc, add_mul, mul_assoc (natOfDigits t.whole : ℚ), hpow, mul_one]

theorem fraction_append (ds es : List Char) :
    (natOfDigits (ds ++ es) : ℚ) * 10 ^ (-((ds ++ es).length : Int)) =
      (natOfDigits ds + natOfDigits es * 10 ^ (-(es.length : Int))) * 10 ^ (-(ds.length : Int)) := by
  have hshift : (10 : ℚ) ^ es.length * 10 ^ (-(es.length : Int)) = 1 := by
    rw [← zpow_natCast, ← zpow_add₀ (by norm_num), add_neg_cancel, zpow_zero]
  have hlength : (10 : ℚ) ^ (-((ds ++ es).length : Int)) =
      10 ^ (-(ds.length : Int)) * 10 ^ (-(es.length : Int)) := by
    rw [List.length_append, ← zpow_add₀ (by norm_num)]
    congr 1
    omega
  rw [natOfDigits_append, hlength]
  push_cast
  linear_combination (natOfDigits ds : ℚ) * 10 ^ (-(ds.length : Int)) * hshift

/-- The digits that are taken, with their scale, are close to the number. -/
theorem close_leading {t : DecimalText} (h : Figures t) :
    Close 60 (leading t * 10 ^ leadingScale t) (decimalOf t).size := by
  obtain ⟨whole, wholeLeft, hwhole, htakeWhole, hwholeLeft⟩ := takeDigits_cases 0 h.whole
  rw [Nat.zero_mul, Nat.zero_add] at htakeWhole hwholeLeft
  obtain ⟨fraction, left, hfraction, htake, hleft⟩ := takeDigits_cases (natOfDigits whole) h.fraction
  have hleading : leading t = natOfDigits whole * 10 ^ fraction.length + natOfDigits fraction := by
    rw [leading, htakeWhole]
    dsimp only
    rw [htake]
  have hscale : leadingScale t = wholeLeft.length + -(fraction.length : Int) + t.scale := by
    rw [leadingScale, htakeWhole]
    dsimp only
    rw [htake, hfraction, List.length_append, Nat.add_sub_cancel, sub_eq_add_neg]
  have hdigits := h.fraction
  rw [hfraction] at hdigits
  obtain ⟨hlow, hhigh⟩ := fraction_bounds hdigits
  obtain ⟨hleftLow, hleftHigh⟩ := fraction_bounds (List.forall_mem_append.mp hdigits).2
  obtain ⟨htakenLow, htakenHigh⟩ := fraction_bounds (List.forall_mem_append.mp hdigits).1
  have hshift : (10 : ℚ) ^ fraction.length * 10 ^ (-(fraction.length : Int)) = 1 := by
    rw [← zpow_natCast, ← zpow_add₀ (by norm_num), add_neg_cancel, zpow_zero]
  have hunit : (0 : ℚ) < 10 ^ (-(fraction.length : Int)) := by positivity
  rw [size_decimalOf, hscale, zpow_add₀ (by norm_num), ← mul_assoc]
  refine Close.mul_right ?_ (by positivity)
  rw [hleading, zpow_add₀ (by norm_num), zpow_natCast, hfraction]
  by_cases hnone : wholeLeft = []
  · -- All digits before the point are taken: what is left lies within the last digit that is taken.
    rw [hwhole, hnone, List.append_nil, List.length_nil, pow_zero, one_mul, fraction_append]
    have hsum : (natOfDigits whole : ℚ) + (natOfDigits fraction + natOfDigits left * 10 ^ (-(left.length : Int))) *
        10 ^ (-(fraction.length : Int)) =
          ((natOfDigits whole * 10 ^ fraction.length + natOfDigits fraction : Nat) +
            natOfDigits left * 10 ^ (-(left.length : Int))) * 10 ^ (-(fraction.length : Int)) := by
      push_cast
      linear_combination -(natOfDigits whole : ℚ) * hshift
    rw [hsum]
    rcases hleft with rfl | hlarge
    · have hrest : (natOfDigits [] : ℚ) * 10 ^ (-(([] : List Char).length : Int)) = 0 := by simp [natOfDigits]
      rw [hrest, add_zero]
      exact .refl 60 (by positivity)
    · refine close_of_between hunit.le (by exact_mod_cast hlarge) ⟨le_refl _, ?_⟩ ⟨?_, ?_⟩ <;>
        refine mul_le_mul_of_nonneg_right ?_ hunit.le <;> linarith
  · -- The fraction, and what is left before the point, lie within the last digit that is taken.
    have hlarge : (2 : ℚ) ^ 60 ≤ natOfDigits whole := by exact_mod_cast hwholeLeft.resolve_left hnone
    have hwholeDigits := h.whole
    rw [hwhole] at hwholeDigits
    have hnext : (natOfDigits wholeLeft : ℚ) + 1 ≤ 10 ^ wholeLeft.length := by
      exact_mod_cast natOfDigits_lt_pow (List.forall_mem_append.mp hwholeDigits).2
    have hscaled : ((natOfDigits whole * 10 ^ fraction.length + natOfDigits fraction : Nat) : ℚ) *
        (10 ^ wholeLeft.length * 10 ^ (-(fraction.length : Int))) =
          (natOfDigits whole + natOfDigits fraction * 10 ^ (-(fraction.length : Int))) *
            10 ^ wholeLeft.length := by
      push_cast
      linear_combination (natOfDigits whole : ℚ) * 10 ^ wholeLeft.length * hshift
    have hunits : (0 : ℚ) ≤ 10 ^ wholeLeft.length := by positivity
    have hrest : (0 : ℚ) ≤ natOfDigits wholeLeft := Nat.cast_nonneg _
    rw [hwhole, natOfDigits_append, hscaled]
    push_cast
    refine close_of_between hunits hlarge ⟨?_, ?_⟩ ⟨?_, ?_⟩
    · exact mul_le_mul_of_nonneg_right (by linarith) hunits
    · exact mul_le_mul_of_nonneg_right (by linarith) hunits
    · linarith
    · linarith

/-! ## Scaling -/

theorem isSome_ofNat?_powerOfTen : ∀ e ≤ 308, (Finite.ofNat? double (Nat.pow 10 e)).isSome = true := by
  decide +kernel

theorem leastNormal_le : (2 : ℚ) ^ (-1022 : Int) ≤ 1 / 4 := by
  have hquarter : (1 / 4 : ℚ) = 2 ^ (-2 : Int) := by norm_num
  rw [hquarter]
  exact zpow_le_zpow_right₀ (by norm_num) (by norm_num)

theorem close_ofNat? {n : Nat} (hn : 0 < n) {x : Finite double} (h : Finite.ofNat? double n = some x) :
    Close 53 x.size n := by
  have hone : (1 : ℚ) ≤ n := by exact_mod_cast hn
  have hlow : (2 : ℚ) ^ (-1022 : Int) ≤ n / (1 : Nat) := by
    rw [Nat.cast_one, div_one]
    linarith [leastNormal_le]
  have hclose := Finite.close_of_ofRatio? Nat.one_pos hlow h
  rwa [Nat.cast_one, div_one] at hclose

theorem close_powerOfTen {e : Nat} (he : e ≤ 308) : Close 53 (powerOfTen e).size (10 ^ e) := by
  obtain ⟨x, hx⟩ := Option.isSome_iff_exists.mp (isSome_ofNat?_powerOfTen e he)
  have hclose := close_ofNat? (Nat.pow_pos (by decide)) hx
  rw [powerOfTen, hx, Option.getD_some]
  exact_mod_cast hclose

variable {x y z : Finite double}

theorem close_mul? (hlow : (1 : ℚ) / 4 ≤ x.size * y.size) (h : x.mul? y = some z) :
    Close 53 z.size (x.size * y.size) := by
  have hquotient : ((x.ratio.1 * y.ratio.1 : Nat) : ℚ) / (x.ratio.2 * y.ratio.2 : Nat) = x.size * y.size := by
    rw [← Finite.ratio_div, ← Finite.ratio_div, div_mul_div_comm]
    push_cast
    rfl
  rw [← hquotient] at hlow ⊢
  refine Finite.close_of_ofRatio? (Nat.mul_pos x.snd_ratio_pos y.snd_ratio_pos) (leastNormal_le.trans hlow) h

theorem close_div? (hy : 0 < y.size) (hlow : (1 : ℚ) / 4 ≤ x.size / y.size) (h : x.div? y = some z) :
    Close 53 z.size (x.size / y.size) := by
  have hquotient : ((x.ratio.1 * y.ratio.2 : Nat) : ℚ) / (x.ratio.2 * y.ratio.1 : Nat) = x.size / y.size := by
    rw [← Finite.ratio_div, ← Finite.ratio_div, div_div_div_eq]
    push_cast
    rfl
  have hne : y.ratio.1 ≠ 0 := by
    intro hzero
    rw [← Finite.ratio_div, hzero, Nat.cast_zero, zero_div] at hy
    exact lt_irrefl 0 hy
  rw [← hquotient] at hlow ⊢
  refine Finite.close_of_ofRatio? (Nat.mul_pos x.snd_ratio_pos (Nat.pos_of_ne_zero hne))
    (leastNormal_le.trans hlow) h

/-- Where the result is not too small, scaling takes one step and leaves forty-eight bits. -/
theorem close_scaled? {n : Nat} (hx : Close 53 x.size n) (hn : n ≤ maxCount) {steps : Nat} {e : Int}
    (hlow : (1 : ℚ) / 2 ≤ n * 10 ^ e) (h : scaled? x (steps + 1) e = some y) : Close 48 y.size (n * 10 ^ e) := by
  have hpow : (0 : ℚ) < 10 ^ e := by positivity
  rw [scaled?] at h
  split at h
  · -- A number that is not zero is too large for the scale.
    next hlarge =>
    split at h
    · next hzero =>
      have hsize : x.size = 0 := by
        rw [Finite.isZero, beq_iff_eq] at hzero
        rw [Finite.size, hzero, Nat.cast_zero, zero_mul]
      have hnone : (n : ℚ) ≤ 0 := by linarith [hx.bounds.1]
      exact absurd hlow (not_le.mpr (by nlinarith))
    · cases h
  split at h
  · next he =>
    have hten := close_powerOfTen (e := e.toNat) (by omega)
    rw [← zpow_natCast, Int.toNat_of_nonneg he] at hten
    have hproduct : Close 51 (x.size * (powerOfTen e.toNat).size) (n * 10 ^ e) := hx.mul hten
    have hz := close_mul? (by linarith [hproduct.bounds.1]) h
    exact (hz.mono (by omega)).trans (hproduct.mono (by omega))
  split at h
  · next he hneg =>
    have hten := close_powerOfTen (e := (-e).toNat) (by omega)
    rw [← zpow_natCast, Int.toNat_of_nonneg (by omega)] at hten
    have hpos : 0 < (powerOfTen (-e).toNat).size := by
      have hdown : (0 : ℚ) < 10 ^ (-e) := by positivity
      linarith [hten.bounds.1]
    have hinv : Close 52 (powerOfTen (-e).toNat).size⁻¹ (10 ^ e) := by
      have hinv := hten.inv (by positivity)
      rwa [zpow_neg, inv_inv] at hinv
    have hquotient : Close 50 (x.size / (powerOfTen (-e).toNat).size) (n * 10 ^ e) := by
      rw [div_eq_mul_inv]
      exact (hx.mono (by omega)).mul hinv
    have hz := close_div? hpos (by linarith [hquotient.bounds.1]) h
    exact (hz.mono (by omega)).trans hquotient
  · next hnear =>
    -- Sixty-four bits scaled down as far as that are less than one half.
    exfalso
    have hscale : (10 : ℚ) ^ e ≤ 10 ^ (-21 : Int) := zpow_le_zpow_right₀ (by norm_num) (by omega)
    have hcount : (n : ℚ) ≤ 10 ^ 20 := by
      have hmax : maxCount ≤ 10 ^ 20 := by decide
      exact_mod_cast hn.trans hmax
    have hsmall : (10 : ℚ) ^ 20 * 10 ^ (-21 : Int) < 1 / 2 := by norm_num
    have hproduct : (n : ℚ) * 10 ^ e ≤ 10 ^ 20 * 10 ^ (-21 : Int) :=
      mul_le_mul hcount hscale hpow.le (by positivity)
    exact absurd (hlow.trans hproduct) (not_le.mpr hsmall)

/-! ## Reading -/

-- The digits before the point bound a number that an exponent makes smaller.
theorem size_decimalOf_lt_one {t : DecimalText} (h : Figures t) (hnegative : t.exponentNegative = true)
    (hlength : t.whole.length < natOfDigits t.exponent) : (decimalOf t).size < 1 := by
  have hwhole : (natOfDigits t.whole : ℚ) + 1 ≤ 10 ^ t.whole.length := by
    exact_mod_cast natOfDigits_lt_pow h.whole
  have hfraction := (fraction_bounds h.fraction).2
  have hscale : t.scale = -(natOfDigits t.exponent : Int) := if_pos hnegative
  have hpow : (0 : ℚ) < 10 ^ t.scale := by positivity
  have hless : (10 : ℚ) ^ (t.whole.length : Int) * 10 ^ t.scale < 1 := by
    rw [← zpow_add₀ (by norm_num)]
    exact zpow_lt_one_of_neg₀ (by norm_num) (by omega)
  rw [size_decimalOf]
  refine lt_of_le_of_lt (mul_le_mul_of_nonneg_right ?_ hpow.le) hless
  rw [zpow_natCast]
  linarith

theorem double?_eq (t : DecimalText) :
    double? t =
      (if exponentLimit < natOfDigits t.exponent then
        if leading t ≠ 0 ∧ !t.exponentNegative then none else some (Finite.zero double false)
      else (Finite.ofNat? double (leading t)).bind fun x => scaled? x 8 (leadingScale t)).map
        fun x => { x with negative := t.negative } := rfl

/-- A number that is not less than one is read as a double that is close to it. -/
theorem close_double? {t : DecimalText} {x : Finite double} (hfigures : Figures t)
    (hlength : t.whole.length ≤ exponentLimit) (hlow : 1 ≤ (decimalOf t).size) (h : double? t = some x) :
    x.negative = t.negative ∧ Close 46 x.size (decimalOf t).size := by
  have hleading := close_leading hfigures
  have hhalf : (1 : ℚ) / 2 ≤ leading t * 10 ^ leadingScale t := by linarith [hleading.bounds.1]
  have hpositive : 0 < leading t := by
    refine Nat.pos_of_ne_zero fun hzero => ?_
    rw [hzero, Nat.cast_zero, zero_mul] at hhalf
    norm_num at hhalf
  rw [double?_eq] at h
  obtain ⟨z, hz, rfl⟩ := Option.map_eq_some_iff.mp h
  refine ⟨rfl, ?_⟩
  change Close 46 z.size _
  split at hz
  · next hlimit =>
    -- An exponent that is too far down leaves less than one.
    split at hz
    · cases hz
    · next hsign =>
      have hnegative : t.exponentNegative = true := by
        by_contra hplus
        exact hsign ⟨hpositive.ne', by simpa using hplus⟩
      exact absurd hlow (not_le.mpr (size_decimalOf_lt_one hfigures hnegative (by omega)))
  · obtain ⟨y, hy, hscaled⟩ := Option.bind_eq_some_iff.mp hz
    have hz := close_scaled? (close_ofNat? hpositive hy) (leading_le t) hhalf hscaled
    exact hz.trans (hleading.mono (by omega))

theorem isZero_scaled? {x y : Finite double} (hx : x.isZero = true) {steps : Nat} {e : Int}
    (h : scaled? x steps e = some y) : y.isZero = true := by
  have hratio := Finite.fst_ratio_eq_zero.mpr hx
  cases steps with
  | zero =>
    cases h
    exact hx
  | succ steps =>
    rw [scaled?, if_pos hx, if_pos hx] at h
    split at h
    · cases h
      exact hx
    split at h
    · rw [Finite.mul?] at h
      dsimp only at h
      rw [hratio, Nat.zero_mul, Finite.ofRatio?, if_pos rfl] at h
      cases h
      rfl
    split at h
    · rw [Finite.div?] at h
      dsimp only at h
      rw [hratio, Nat.zero_mul, Finite.ofRatio?, if_pos rfl] at h
      cases h
      rfl
    · cases h
      exact hx

theorem isZero_double? {t : DecimalText} {x : Finite double} (hfigures : Figures t)
    (hzero : (decimalOf t).size = 0) (h : double? t = some x) : x.isZero = true := by
  have hleading := close_leading hfigures
  have hnone : leading t = 0 := by
    rw [hzero, Close, sub_zero, zero_div, abs_nonpos_iff, mul_eq_zero] at hleading
    exact_mod_cast hleading.resolve_right (by positivity)
  rw [double?_eq] at h
  obtain ⟨z, hz, rfl⟩ := Option.map_eq_some_iff.mp h
  change z.isZero = true
  split at hz
  · split at hz <;> cases hz
    rfl
  · obtain ⟨y, hy, hscaled⟩ := Option.bind_eq_some_iff.mp hz
    rw [hnone, Finite.ofNat?, Finite.ofRatio?, if_pos rfl] at hy
    cases hy
    exact isZero_scaled? rfl hscaled

end ChatAssistant.Json
