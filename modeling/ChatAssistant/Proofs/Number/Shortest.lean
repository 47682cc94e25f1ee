import ChatAssistant.Number.Shortest
import ChatAssistant.Proofs.Number.Order
import ChatAssistant.Proofs.Number.Rounding

/-!
# The shortest decimal of a small value

The digits of a value that is not zero are not zero, and they stand close to the point where the value is
small: the search starts near the magnitude of the value, and eighteen grids are more than its estimate
may be wrong by.
-/

namespace ChatAssistant.Number

/-! ## Powers of two and of ten -/

theorem pow_le_pow_of_scale {a b p q n t : Nat} (hbase : a ^ p ≤ b ^ q) (hp : p ≠ 0) (hb : 0 < b)
    (h : q * n ≤ p * t) : a ^ n ≤ b ^ t := by
  refine (Nat.pow_le_pow_iff_left hp).mp ?_
  calc (a ^ n) ^ p = (a ^ p) ^ n := Nat.pow_right_comm a n p
    _ ≤ (b ^ q) ^ n := Nat.pow_le_pow_left hbase n
    _ = b ^ (q * n) := (Nat.pow_mul b q n).symm
    _ ≤ b ^ (p * t) := Nat.pow_le_pow_right hb h
    _ = (b ^ t) ^ p := by rw [Nat.mul_comm, Nat.pow_mul]

-- The binary logarithm of ten is a little more than `100000 / 30103`.
theorem two_pow_le_ten_pow {n t : Nat} (h : 30103 * n ≤ 100000 * t) : 2 ^ n ≤ 10 ^ t :=
  have hbase : 2 ^ 100000 ≤ 10 ^ 30103 := by decide +kernel
  pow_le_pow_of_scale hbase (by decide) (by decide) h

/-! ## The magnitude -/

theorem magnitudeFrom_le (num den fuel : Nat) (k : Int) : magnitudeFrom num den fuel k ≤ k + fuel := by
  induction fuel generalizing k with
  | zero => simp [magnitudeFrom]
  | succ fuel ih =>
    have hnext := ih (k + 1)
    rw [magnitudeFrom]
    split <;> omega

theorem log2_le_succ_log2 {num den : Nat} (hnum : 0 < num) (h : num ≤ 2 ^ 1 * den) :
    num.log2 ≤ den.log2 + 1 := by
  refine Nat.lt_succ_iff.mp ((Nat.log2_lt hnum.ne').mpr ?_)
  have hden := Nat.lt_log2_self (n := den)
  rw [Nat.pow_succ]
  omega

theorem magnitude_le {num den : Nat} (hnum : 0 < num) (h : num ≤ 2 ^ 1 * den) :
    magnitude num den ≤ 3 ∧
      30103 * ((den.log2 : Int) + 1 - num.log2) ≤ 100000 * (18 - magnitude num den) := by
  have hlog := log2_le_succ_log2 hnum h
  have hmagnitude : magnitude num den ≤
      Int.fdiv (((num.log2 : Int) - den.log2 - 1) * 30103) 100000 - 1 + (4 : Nat) :=
    magnitudeFrom_le num den 4 _
  rw [Int.fdiv_eq_ediv_of_nonneg _ (by decide)] at hmagnitude
  omega

/-! ## Neighbours on a grid -/

/-- A decimal with digits, which reach at most four places before the point. -/
structure Decimal.Low (d : Decimal) : Prop where
  digits : d.digits ≠ 0
  place : (digitCount d.digits : Int) + d.exponent ≤ 4

theorem digitCount_le {n k : Nat} (hk : 0 < k) (h : n < 10 ^ k) : digitCount n ≤ k :=
  (Nat.length_toDigits_le_iff (by decide) hk).mpr h

variable {f : Format} {x : Finite f}

theorem place_upper_neighbour (hx : x.Within 1) {k : Int} (hk : k ≤ 3) :
    (digitCount ((neighbours x k).1.digits + 1) : Int) + k ≤ 4 := by
  have hden := x.snd_ratio_pos
  unfold Finite.Within at hx
  unfold neighbours
  dsimp only
  by_cases hsign : 0 ≤ k
  · rw [if_pos hsign]
    have hquotient : x.ratio.1 / (x.ratio.2 * 10 ^ k.toNat) ≤ 2 := by
      refine Nat.div_le_of_le_mul ?_
      calc x.ratio.1 ≤ x.ratio.2 * 1 * 2 := by omega
        _ ≤ x.ratio.2 * 10 ^ k.toNat * 2 :=
          Nat.mul_le_mul_right 2 (Nat.mul_le_mul_left _ (Nat.pow_pos (by decide)))
    have hcount := digitCount_le (n := x.ratio.1 / (x.ratio.2 * 10 ^ k.toNat) + 1) Nat.one_pos
      (by omega)
    change (digitCount (x.ratio.1 / (x.ratio.2 * 10 ^ k.toNat) + 1) : Int) + k ≤ 4
    omega
  · rw [if_neg hsign]
    have hquotient : x.ratio.1 * 10 ^ (-k).toNat / x.ratio.2 ≤ 2 * 10 ^ (-k).toNat := by
      refine Nat.div_le_of_le_mul ?_
      calc x.ratio.1 * 10 ^ (-k).toNat ≤ 2 ^ 1 * x.ratio.2 * 10 ^ (-k).toNat :=
            Nat.mul_le_mul_right _ hx
        _ = x.ratio.2 * (2 * 10 ^ (-k).toNat) := by ring
    have hpow : 0 < 10 ^ (-k).toNat := Nat.pow_pos (by decide)
    have hcount := digitCount_le (n := x.ratio.1 * 10 ^ (-k).toNat / x.ratio.2 + 1)
      (Nat.succ_pos (-k).toNat) (by rw [Nat.pow_succ]; omega)
    change (digitCount (x.ratio.1 * 10 ^ (-k).toNat / x.ratio.2 + 1) : Int) + k ≤ 4
    omega

theorem digitCount_mono {m n : Nat} (h : m ≤ n) : digitCount m ≤ digitCount n :=
  digitCount_le Nat.length_toDigits_pos
    (h.trans_lt ((Nat.length_toDigits_le_iff (by decide) Nat.length_toDigits_pos).mp (le_refl _)))

theorem place_neighbours (hx : x.Within 1) {k : Int} (hk : k ≤ 3) {d : Decimal}
    (h : d = (neighbours x k).1 ∨ d = (neighbours x k).2) :
    (digitCount d.digits : Int) + d.exponent ≤ 4 := by
  have hupper := place_upper_neighbour hx hk
  rcases h with rfl | rfl
  · have hlower := digitCount_mono (Nat.le_add_right (neighbours x k).1.digits 1)
    change (digitCount (neighbours x k).1.digits : Int) + k ≤ 4
    omega
  · exact hupper

-- Zero reads as zero.
theorem digits_ne_zero_of_readsAs {d : Decimal} (hx : x.significand ≠ 0)
    (h : d.readsAs x = true) : d.digits ≠ 0 := by
  intro hzero
  have hratio : d.ratio.1 = 0 := by
    unfold Decimal.ratio
    split <;> simp [hzero]
  simp only [Decimal.readsAs, Finite.ofRatio?, hratio, if_true, Finite.zero, Bool.and_eq_true,
    beq_iff_eq] at h
  exact hx h.1.symm

theorem onGrid?_eq_some {k : Int} {d : Decimal} (h : onGrid? x k = some d) :
    (d = (neighbours x k).1 ∨ d = (neighbours x k).2) ∧ d.readsAs x = true := by
  unfold onGrid? at h
  rcases hpair : neighbours x k with ⟨lower, upper⟩
  rw [hpair] at h
  cases hlower : lower.readsAs x <;> cases hupper : upper.readsAs x <;>
    simp only [hlower, hupper, Option.some.injEq, reduceCtorEq] at h
  · exact ⟨.inr h.symm, h ▸ hupper⟩
  · exact ⟨.inl h.symm, h ▸ hlower⟩
  · split at h
    · exact ⟨.inr h.symm, h ▸ hupper⟩
    · exact ⟨.inl h.symm, h ▸ hlower⟩

/-! ## The search -/

theorem low_shortestFrom (hx : x.Within 1) (hne : x.significand ≠ 0) (fuel : Nat) {k : Int}
    (hk : k ≤ 3) (hlast : (neighbours x (k - fuel)).1.digits ≠ 0) : (shortestFrom x fuel k).Low := by
  induction fuel generalizing k with
  | zero =>
    rw [Nat.cast_zero, sub_zero] at hlast
    exact ⟨hlast, place_neighbours hx hk (.inl rfl)⟩
  | succ fuel ih =>
    rw [shortestFrom]
    cases hgrid : onGrid? x k with
    | none =>
      refine ih (by omega) ?_
      have hnext : k - 1 - (fuel : Int) = k - (fuel + 1 : Nat) := by omega
      rwa [hnext]
    | some d =>
      obtain ⟨hneighbour, hreads⟩ := onGrid?_eq_some hgrid
      exact ⟨digits_ne_zero_of_readsAs hne hreads, place_neighbours hx hk hneighbour⟩

theorem Decimal.Low.stripZeros {d : Decimal} (h : d.Low) (fuel : Nat) : (d.stripZeros fuel).Low := by
  induction fuel generalizing d with
  | zero => exact h
  | succ fuel ih =>
    rw [Decimal.stripZeros]
    split
    · next hzero =>
      have hten : 10 ≤ d.digits := by omega
      have hcount : digitCount d.digits = digitCount (d.digits / 10) + 1 := by
        simp only [digitCount, Nat.toDigits_of_base_le (by decide) hten, List.length_append,
          List.length_singleton]
      have hplace := h.place
      refine ih ⟨?_, ?_⟩
      · change d.digits / 10 ≠ 0
        omega
      · change (digitCount (d.digits / 10) : Int) + (d.exponent + 1) ≤ 4
        omega
    · exact h

-- On the last grid the lower neighbour is not zero.
theorem digits_lastNeighbour_ne_zero (hx : x.Within 1) (hne : 0 < x.ratio.1) :
    (neighbours x (magnitude x.ratio.1 x.ratio.2 - 18)).1.digits ≠ 0 := by
  obtain ⟨hhigh, hlow⟩ := magnitude_le hne hx
  have hlog := log2_le_succ_log2 hne hx
  generalize magnitude x.ratio.1 x.ratio.2 = m at hhigh hlow
  have hpow : 2 ^ (x.ratio.2.log2 + 1 - x.ratio.1.log2) ≤ 10 ^ (-(m - 18)).toNat :=
    two_pow_le_ten_pow (by omega)
  have hden : x.ratio.2 ≤ x.ratio.1 * 10 ^ (-(m - 18)).toNat := by
    calc x.ratio.2 ≤ 2 ^ (x.ratio.2.log2 + 1) := Nat.lt_log2_self.le
      _ = 2 ^ x.ratio.1.log2 * 2 ^ (x.ratio.2.log2 + 1 - x.ratio.1.log2) := by
        rw [← Nat.pow_add, Nat.add_sub_cancel' hlog]
      _ ≤ x.ratio.1 * 10 ^ (-(m - 18)).toNat :=
        Nat.mul_le_mul (Nat.log2_self_le hne.ne') hpow
  unfold neighbours
  dsimp only
  rw [if_neg (by omega)]
  exact (Nat.div_pos hden x.snd_ratio_pos).ne'

/-- The shortest decimal of a value of at most two that is not zero. -/
theorem Finite.low_shortest (hx : x.Within 1) (hne : x.isZero = false) : x.shortest.Low := by
  have hpos : 0 < x.ratio.1 := Nat.pos_of_ne_zero fun hzero => by
    rw [fst_ratio_eq_zero.mp hzero] at hne
    cases hne
  have hsignificand : x.significand ≠ 0 := by
    simpa [Finite.isZero] using hne
  unfold shortest
  rw [hne]
  exact (low_shortestFrom hx hsignificand 18 (magnitude_le hpos hx).1
    (digits_lastNeighbour_ne_zero hx hpos)).stripZeros 18

end ChatAssistant.Number
