import ChatAssistant.Proofs.Json.Accuracy
import ChatAssistant.Proofs.Json.Verbatim

/-!
# What numbers stand for

A number stands for its value.  One that was read from a text stands for what is written there as well, and
a double need not have just that value.  Where an integer is written, it has the sign of the integer and is
close to it.
-/

namespace ChatAssistant.Json

open ChatAssistant.Number

/-! ## Texts of numbers -/

theorem NumberSpelled.figures {t : DecimalText} {cs : List Char} (h : NumberSpelled t cs) : Figures t := by
  have hunsigned : ∀ {cs}, UnsignedSpelled t cs → Figures t := by
    rintro _ ⟨hwhole, -, hfraction, -⟩
    refine ⟨hwhole.2, ?_⟩
    generalize t.fraction = ds at hfraction
    cases hfraction with
    | absent => exact List.forall_mem_nil _
    | present hds => exact hds.2
  cases h with
  | positive _ hspelled => exact hunsigned hspelled
  | negative _ hspelled => exact hunsigned hspelled

theorem figures_of_parse? {s : String} {t : DecimalText} (h : Raw.parse? s = some (.number t)) : Figures t := by
  obtain ⟨_, _, _, -, -, hspelled, -⟩ := (Raw.parse?_eq_some_iff.mp h).exists_first
  cases hspelled with
  | number hspelled => exact hspelled.figures

/-- The number that a text writes. -/
def amount (t : DecimalText) : ℚ := if t.negative then -(decimalOf t).size else (decimalOf t).size

theorem abs_amount (t : DecimalText) : |amount t| = (decimalOf t).size := by
  have hsize : 0 ≤ (decimalOf t).size := by
    unfold Decimal.size
    positivity
  unfold amount
  split
  · rw [abs_neg, abs_of_nonneg hsize]
  · exact abs_of_nonneg hsize

/-! ## Reading them -/

-- An integer of sixty-four bits is read as it is written.
theorem amount_of_ofText? {t : DecimalText} {i : Int} (h : Number.ofText? t = some (.int i)) : amount t = i := by
  have hsize : t.fraction = [] → t.exponent = [] → (decimalOf t).size = natOfDigits t.whole := by
    intro hfraction hexponent
    have hscale : t.scale = 0 := by simp [DecimalText.scale, hexponent, natOfDigits]
    rw [size_decimalOf, hscale, hfraction]
    simp [natOfDigits]
  unfold amount
  cases isRead_of_ofText? h with
  | positive hfraction hexponent hsign =>
    rw [hsize hfraction hexponent, hsign, if_neg Bool.false_ne_true, Int.cast_natCast]
  | negative hfraction hexponent hsign =>
    rw [hsize hfraction hexponent, hsign, if_pos rfl, Int.cast_neg, Int.cast_natCast]

theorem parse?_number {s : String} {t : DecimalText} {m : Number} (hraw : Raw.parse? s = some (.number t))
    (h : Value.parse? s = some (.number m)) : Number.ofText? t = some m := by
  rw [Value.parse?, hraw, Option.bind_some, Raw.toValue?] at h
  obtain ⟨_, hread, heq⟩ := Option.map_eq_some_iff.mp h
  cases heq
  exact hread

/-! ## Denotation -/

namespace Number

/-- The value of a number. -/
def value : Number → ℚ
  | .int n => n
  | .float x => x.value

/-- A number stands for its value, and for what is written in a document that it was read from.  A text of
more than `2 ^ 31` digits is left out: the reader cannot count the places that its exponent may take back. -/
inductive Denotes (m : Number) (q : ℚ) : Prop
  | held : m.value = q → Denotes m q
  | read {s : String} {t : DecimalText} :
      Value.parse? s = some (.number m) → Raw.parse? s = some (.number t) → t.whole.length ≤ exponentLimit →
        amount t = q → Denotes m q

end Number

/-- A double that has the sign of an integer and is close to it. -/
structure Approximates (x : Finite double) (n : Int) : Prop where
  negative : n ≠ 0 → x.negative = decide (n < 0)
  close : Close 46 x.size |(n : ℚ)|

namespace Approximates

variable {x : Finite double} {n : Int}

theorem of_value (h : x.value = n) : Approximates x n := by
  cases hsign : x.negative && !x.isZero with
  | true =>
    obtain ⟨hvalue, hpos⟩ := Finite.value_of_below hsign
    rw [hvalue, Finite.ratio_div] at h
    rw [Finite.ratio_div] at hpos
    have hneg : (n : ℚ) < 0 := by linarith
    refine ⟨fun _ => ?_, ?_⟩
    · rw [decide_eq_true (by exact_mod_cast hneg)]
      exact (Bool.and_eq_true_iff.mp hsign).1
    · rw [abs_of_neg hneg, ← h, neg_neg]
      exact .refl 46 hpos.le
  | false =>
    rw [Finite.value_of_not_below hsign] at h
    have hnonneg : (0 : ℚ) ≤ n := h ▸ x.magnitude_nonneg
    refine ⟨fun hne => ?_, ?_⟩
    · have hzero : x.isZero = false := by
        refine Bool.eq_false_iff.mpr fun hzero => hne ?_
        rw [Finite.fst_ratio_eq_zero.mpr hzero, Nat.cast_zero, zero_div] at h
        exact_mod_cast h.symm
      rw [hzero, Bool.not_false, Bool.and_true] at hsign
      rw [hsign, eq_comm, decide_eq_false_iff_not, not_lt]
      exact_mod_cast hnonneg
    · rw [abs_of_nonneg hnonneg, ← h, Finite.ratio_div]
      exact .refl 46 (by rw [← Finite.ratio_div, h]; exact hnonneg)

theorem of_double? {t : DecimalText} (hfigures : Figures t) (hlength : t.whole.length ≤ exponentLimit)
    (hamount : amount t = n) (h : double? t = some x) : Approximates x n := by
  have hsize : (decimalOf t).size = |(n : ℚ)| := by rw [← hamount, abs_amount]
  by_cases hzero : n = 0
  · rw [hzero, Int.cast_zero, abs_zero] at hsize
    have hnone := isZero_double? hfigures hsize h
    refine ⟨fun hne => absurd hzero hne, ?_⟩
    rw [← Finite.ratio_div, Finite.fst_ratio_eq_zero.mpr hnone, hzero]
    simp [Close]
  · have hone : 1 ≤ |(n : ℚ)| := by exact_mod_cast Int.one_le_abs hzero
    obtain ⟨hnegative, hclose⟩ := close_double? hfigures hlength (hsize ▸ hone) h
    refine ⟨fun _ => ?_, hsize ▸ hclose⟩
    rw [hnegative]
    cases hsign : t.negative with
    | true =>
      have hneg : (n : ℚ) < 0 := by
        rw [amount, hsign, if_pos rfl] at hamount
        linarith
      rw [eq_comm, decide_eq_true_iff]
      exact_mod_cast hneg
    | false =>
      have hnonneg : (0 : ℚ) ≤ n := by
        rw [amount, hsign, if_neg Bool.false_ne_true] at hamount
        linarith
      rw [eq_comm, decide_eq_false_iff_not, not_lt]
      exact_mod_cast hnonneg

-- A double that is close to an integer other than zero is not zero.
theorem isZero_eq_false (h : Approximates x n) (hne : n ≠ 0) : x.isZero = false :=
  Finite.isZero_eq_false_of_close h.close (abs_pos.mpr (by exact_mod_cast hne))

-- A double that is close to zero is zero.
theorem isZero_of_eq_zero (h : Approximates x 0) : x.isZero = true := by
  have hclose := h.close
  rw [Close, Int.cast_zero, abs_zero, sub_zero, zero_div, abs_nonpos_iff, ← Finite.ratio_div, div_eq_zero_iff] at hclose
  refine Finite.fst_ratio_eq_zero.mp ?_
  exact_mod_cast hclose.resolve_right (Nat.cast_ne_zero.mpr x.snd_ratio_pos.ne')

end Approximates

/-- A number that stands for an integer is that integer, or a double close to it. -/
theorem Number.Denotes.cases {m : Number} {n : Int} (h : m.Denotes n) :
    m = .int n ∨ ∃ x, m = .float x ∧ Approximates x n := by
  cases h with
  | held hvalue =>
    cases m with
    | int i =>
      have hvalue : (i : ℚ) = n := hvalue
      exact .inl (congrArg _ (by exact_mod_cast hvalue))
    | float x => exact .inr ⟨x, rfl, .of_value hvalue⟩
  | read hdocument hraw hlength hamount =>
    have hread := parse?_number hraw hdocument
    cases m with
    | int i =>
      rw [amount_of_ofText? hread] at hamount
      exact .inl (congrArg _ (by exact_mod_cast hamount))
    | float x =>
      cases isRead_of_ofText? hread with
      | double hx => exact .inr ⟨x, rfl, .of_double? (figures_of_parse? hraw) hlength hamount hx⟩

end ChatAssistant.Json
