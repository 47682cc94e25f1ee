import ChatAssistant.Json.Decode
import ChatAssistant.Proofs.Json.Layouts
import ChatAssistant.Proofs.Number.Order
import ChatAssistant.Proofs.Number.Rounding

/-!
# Numbers that have a value

A number is refused where it is too large for a double.  That is never so for a few digits with a scale
that only makes them smaller: every quotient on the way stays below a bound.
-/

namespace ChatAssistant.Json

open ChatAssistant.Number

/-! ## The digits that are taken -/

theorem fst_takeDigits_le {n : Nat} (h : n ≤ maxCount) (ds : List Char) :
    (takeDigits n ds).1 ≤ maxCount := by
  induction ds generalizing n with
  | nil => exact h
  | cons c ds ih =>
    rw [takeDigits]
    split
    · next hnext => exact ih hnext
    · exact h

-- Nineteen digits fit into sixty-four bits.
theorem snd_takeDigits_eq_zero {n used : Nat} {ds : List Char} (hds : ∀ c ∈ ds, c.isDigit = true)
    (hn : n < 10 ^ used) (hlength : used + ds.length ≤ 19) : (takeDigits n ds).2 = 0 := by
  induction ds generalizing n used with
  | nil => rfl
  | cons c ds ih =>
    obtain ⟨hc, hrest⟩ := List.forall_mem_cons.mp hds
    have hvalue := digitValue_lt_ten hc
    have hnext : n * 10 + digitValue c < 10 ^ (used + 1) := by
      rw [Nat.pow_succ]
      omega
    rw [List.length_cons] at hlength
    have hfits : n * 10 + digitValue c ≤ maxCount := by
      have hpow : 10 ^ (used + 1) ≤ 10 ^ 19 := Nat.pow_le_pow_right (by decide) (by omega)
      have hmax : 10 ^ 19 ≤ maxCount := by decide
      omega
    rw [takeDigits, if_pos hfits]
    exact ih hrest hnext (by omega)

/-! ## The powers of ten -/

theorem one_le_powerOfTen :
    ∀ e ≤ 308, (powerOfTen e).ratio.2 ≤ (powerOfTen e).ratio.1 := by
  decide +kernel

/-! ## Scaling down -/

theorem within_ofNat? {n : Nat} (h : n ≤ maxCount) :
    ∃ x : Finite double, Finite.ofNat? double n = some x ∧ x.Within 64 := by
  refine Finite.exists_ofRatio?_within false (by decide) Nat.one_pos ?_
  have hmax : maxCount ≤ 2 ^ 64 * 1 := by decide
  exact h.trans hmax

theorem within_div? {x y : Finite double} (hx : x.Within 64) (hy : y.ratio.2 ≤ y.ratio.1) :
    ∃ z, x.div? y = some z ∧ z.Within 64 := by
  refine Finite.exists_ofRatio?_within _ (by decide)
    (Nat.mul_pos x.snd_ratio_pos (y.snd_ratio_pos.trans_le hy)) ?_
  calc x.ratio.1 * y.ratio.2 ≤ 2 ^ 64 * x.ratio.2 * y.ratio.1 := Nat.mul_le_mul hx hy
    _ = 2 ^ 64 * (x.ratio.2 * y.ratio.1) := Nat.mul_assoc ..

theorem within_mul?_one {x : Finite double} (hx : x.Within 64) :
    ∃ z, x.mul? (powerOfTen 0) = some z ∧ z.Within 64 := by
  have hone : (powerOfTen 0).ratio.1 = (powerOfTen 0).ratio.2 := by decide +kernel
  refine Finite.exists_ofRatio?_within _ (by decide)
    (Nat.mul_pos x.snd_ratio_pos (powerOfTen 0).snd_ratio_pos) ?_
  calc x.ratio.1 * (powerOfTen 0).ratio.1 ≤ 2 ^ 64 * x.ratio.2 * (powerOfTen 0).ratio.2 :=
        Nat.mul_le_mul hx hone.le
    _ = 2 ^ 64 * (x.ratio.2 * (powerOfTen 0).ratio.2) := Nat.mul_assoc ..

theorem isSome_scaled? {x : Finite double} (hx : x.Within 64) (steps : Nat) {e : Int} (he : e ≤ 0) :
    (scaled? x steps e).isSome = true := by
  induction steps generalizing x e with
  | zero => rfl
  | succ steps ih =>
    rw [scaled?, if_neg (by omega)]
    by_cases hzero : e = 0
    · subst hzero
      obtain ⟨z, hz, -⟩ := within_mul?_one hx
      rw [if_pos (le_refl _), Int.toNat_zero, hz]
      rfl
    rw [if_neg (by omega)]
    by_cases hnear : -308 ≤ e
    · obtain ⟨z, hz, -⟩ := within_div? hx (one_le_powerOfTen (-e).toNat (by omega))
      rw [if_pos hnear, hz]
      rfl
    rw [if_neg hnear]
    split
    · rfl
    · obtain ⟨z, hz, hwithin⟩ := within_div? hx (one_le_powerOfTen 308 (by decide))
      rw [hz, Option.bind_some]
      exact ih hwithin (by omega)

/-! ## Reading -/

/-- How a text becomes a number: an integer of sixty-four bits by its digits, anything else as a double. -/
inductive Number.IsRead (t : DecimalText) : Number → Prop
  | positive : t.fraction = [] → t.exponent = [] → t.negative = false → natOfDigits t.whole ≤ maxCount →
      IsRead t (.int (natOfDigits t.whole))
  | negative : t.fraction = [] → t.exponent = [] → t.negative = true → natOfDigits t.whole ≠ 0 →
      natOfDigits t.whole ≤ 0x8000000000000000 → IsRead t (.int (-natOfDigits t.whole))
  | double {x : Finite double} : double? t = some x → IsRead t (.float x)

theorem isRead_of_ofText? {t : DecimalText} {n : Number} (h : Number.ofText? t = some n) : n.IsRead t := by
  have hdouble : (double? t).map Number.float = some n → n.IsRead t := by
    intro hmap
    obtain ⟨x, hx, rfl⟩ := Option.map_eq_some_iff.mp hmap
    exact .double hx
  unfold Number.ofText? at h
  dsimp only at h
  split at h
  · next hplain =>
    obtain ⟨hfraction, hexponent⟩ : t.fraction = [] ∧ t.exponent = [] := by simpa using hplain
    split at h
    · next hcount =>
      cases h
      rw [Bool.and_eq_true, Bool.not_eq_true', decide_eq_true_eq] at hcount
      exact .positive hfraction hexponent hcount.1 hcount.2
    split at h
    · next hcount =>
      cases h
      simp only [Bool.and_eq_true, decide_eq_true_eq] at hcount
      exact .negative hfraction hexponent hcount.1.1 hcount.1.2 hcount.2
    · exact hdouble h
  · exact hdouble h

/-- At most nineteen digits before the point, and a scale that does not make them larger. -/
structure Small (t : DecimalText) : Prop where
  digits : ∀ c ∈ t.whole, c.isDigit = true
  length : t.whole.length ≤ 19
  exponent : t.exponent = [] ∨ t.exponentNegative = true

theorem Small.scale_nonpos {t : DecimalText} (h : Small t) : t.scale ≤ 0 := by
  unfold DecimalText.scale
  rcases h.exponent with hnone | hnegative
  · rw [hnone]
    split <;> simp [natOfDigits]
  · rw [if_pos hnegative]
    omega

theorem Small.isSome_double? {t : DecimalText} (h : Small t) : (double? t).isSome = true := by
  have hstart : 0 < 10 ^ 0 := by decide
  have hleft : (takeDigits 0 t.whole).2 = 0 :=
    snd_takeDigits_eq_zero h.digits hstart (by simpa using h.length)
  have hdigits := fst_takeDigits_le
    (fst_takeDigits_le (Nat.zero_le maxCount) t.whole) t.fraction
  unfold double?
  rw [Option.isSome_map]
  split
  · next hlimit =>
    -- An exponent out of the range that is computed with is a negative one.
    have hnegative : t.exponentNegative = true := by
      refine h.exponent.resolve_left fun hnone => ?_
      rw [hnone] at hlimit
      exact absurd hlimit (by decide)
    simp [hnegative]
  · obtain ⟨x, hx, hwithin⟩ := within_ofNat? hdigits
    rw [hx, Option.bind_some]
    have hscale := h.scale_nonpos
    exact isSome_scaled? hwithin 8 (by rw [hleft]; omega)

theorem Small.isSome_ofText? {t : DecimalText} (h : Small t) :
    (Number.ofText? t).isSome = true := by
  have hdouble : ((double? t).map Number.float).isSome = true := by
    rw [Option.isSome_map]
    exact h.isSome_double?
  unfold Number.ofText?
  dsimp only
  split
  · split
    · rfl
    · split
      · rfl
      · exact hdouble
  · exact hdouble

end ChatAssistant.Json
