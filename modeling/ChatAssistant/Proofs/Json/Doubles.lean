import ChatAssistant.Proofs.Json.Scaling
import ChatAssistant.Proofs.Number.Canonical

/-!
# The doubles of JSON numbers

Each step that scales the digits of a number rounds its result, so that the double of a number is in the one
representation that rounding yields.
-/

namespace ChatAssistant.Json

open ChatAssistant.Number

theorem canonical_ofNat? {n : Nat} {x : Finite double} (h : Finite.ofNat? double n = some x) : x.Canonical :=
  Finite.canonical_of_ofRatio? Nat.one_pos h

theorem canonical_mul? {x y z : Finite double} (h : x.mul? y = some z) : z.Canonical :=
  Finite.canonical_of_ofRatio? (Nat.mul_pos x.snd_ratio_pos y.snd_ratio_pos) h

theorem canonical_div? {x z : Finite double} {e : Nat} (he : e ≤ 308) (h : x.div? (powerOfTen e) = some z) :
    z.Canonical :=
  Finite.canonical_of_ofRatio?
    (Nat.mul_pos x.snd_ratio_pos (Nat.lt_of_lt_of_le (powerOfTen e).snd_ratio_pos (one_le_powerOfTen e he))) h

theorem canonical_scaled? {x y : Finite double} (hx : x.Canonical) {steps : Nat} {e : Int}
    (h : scaled? x steps e = some y) : y.Canonical := by
  induction steps generalizing x e with
  | zero =>
    cases h
    exact hx
  | succ steps ih =>
    rw [scaled?] at h
    split at h
    · split at h <;> cases h
      exact hx
    split at h
    · exact canonical_mul? h
    split at h
    · exact canonical_div? (by omega) h
    split at h
    · cases h
      exact hx
    · obtain ⟨z, hz, hrest⟩ := Option.bind_eq_some_iff.mp h
      exact ih (canonical_div? (Nat.le_refl _) hz) hrest

theorem canonical_double? {t : DecimalText} {x : Finite double} (h : double? t = some x) : x.Canonical := by
  unfold double? at h
  dsimp only at h
  obtain ⟨y, hy, rfl⟩ := Option.map_eq_some_iff.mp h
  refine Finite.Canonical.withSign ?_ t.negative
  split at hy
  · split at hy <;> cases hy
    exact Finite.canonical_zero false
  · obtain ⟨z, hz, hscaled⟩ := Option.bind_eq_some_iff.mp hy
    exact canonical_scaled? (canonical_ofNat? hz) hscaled

/-- A number of JSON is an integer of sixty-four bits, or a rounded double. -/
theorem ofText?_cases {t : DecimalText} {n : Number} (h : Number.ofText? t = some n) :
    (∃ i : Int, n = .int i ∧ -0x8000000000000000 ≤ i ∧ i ≤ maxCount) ∨
      ∃ x : Finite double, n = .float x ∧ x.Canonical := by
  cases isRead_of_ofText? h with
  | positive _ _ _ hmax => exact .inl ⟨_, rfl, by omega, by exact_mod_cast hmax⟩
  | negative _ _ _ _ hmax =>
    have hcount := Int.natCast_nonneg maxCount
    exact .inl ⟨_, rfl, by omega, by omega⟩
  | double hx => exact .inr ⟨_, rfl, canonical_double? hx⟩

end ChatAssistant.Json
