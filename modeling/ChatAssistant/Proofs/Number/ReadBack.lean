import ChatAssistant.Proofs.Json.Layouts

/-!
# Doubles that are read back

Whatever the layout is, the text of a double spells its shortest decimal, and so it is read as the double.
-/

namespace ChatAssistant.Number

open ChatAssistant.Json (UnsignedSpelled decimalOf exists_zero isPlaced_placed exists_scientific isLed_toDigits
  natOfDigits_toDigits)

/-! ## The value of a text -/

theorem pow_digitCount_le {n : Nat} (hn : n ≠ 0) : 10 ^ (digitCount n - 1) ≤ n := by
  by_contra hlt
  have hpos : 0 < digitCount n := Nat.length_toDigits_pos
  rcases Nat.eq_zero_or_pos (digitCount n - 1) with hone | hmore
  · rw [hone, Nat.pow_zero] at hlt
    omega
  · have := digitCount_le hmore (Nat.lt_of_not_le hlt)
    omega

theorem lt_pow_digitCount (n : Nat) : n < 10 ^ digitCount n :=
  (Nat.length_toDigits_le_iff (by decide) Nat.length_toDigits_pos).mp (Nat.le_refl _)

namespace Decimal

variable {d : Decimal}

/-- A decimal lies between the powers of ten that its digits tell. -/
theorem size_bounds (hd : d.digits ≠ 0) :
    (10 : ℚ) ^ (digitCount d.digits + d.exponent - 1) ≤ d.size ∧
      d.size < 10 ^ (digitCount d.digits + d.exponent) := by
  have hpow : (0 : ℚ) < 10 ^ d.exponent := by positivity
  have hpos : 0 < digitCount d.digits := Nat.length_toDigits_pos
  have hlow : ((10 ^ (digitCount d.digits - 1) : Nat) : ℚ) ≤ d.digits := Nat.cast_le.mpr (pow_digitCount_le hd)
  have hhigh : (d.digits : ℚ) < (10 ^ digitCount d.digits : Nat) := Nat.cast_lt.mpr (lt_pow_digitCount _)
  constructor
  · calc (10 : ℚ) ^ (digitCount d.digits + d.exponent - 1)
        = 10 ^ (((digitCount d.digits - 1 : Nat) : Int) + d.exponent) := by congr 1; omega
      _ = (10 ^ (digitCount d.digits - 1) : Nat) * 10 ^ d.exponent := by
        rw [zpow_add₀ (by norm_num), zpow_natCast]; push_cast; rfl
      _ ≤ d.size := mul_le_mul_of_nonneg_right hlow hpow.le
  · calc d.size < (10 ^ digitCount d.digits : Nat) * 10 ^ d.exponent := mul_lt_mul_of_pos_right hhigh hpow
      _ = 10 ^ (digitCount d.digits + d.exponent) := by
        rw [zpow_add₀ (by norm_num), zpow_natCast]; push_cast; rfl

/-- A decimal that reads as a double is not so small or large that its digits are passed over. -/
theorem place_bounds {x : Finite double} (hne : x.significand ≠ 0) (h : d.readsAs x = true) :
    -400 ≤ (digitCount d.digits : Int) + d.exponent ∧ (digitCount d.digits : Int) + d.exponent ≤ 400 := by
  obtain ⟨hlow, hhigh⟩ := Finite.bounds_of_ofRatio? d.snd_ratio_pos (readsAs_iff.mp h) hne
  rw [ratio_div] at hlow hhigh
  obtain ⟨hlow', hhigh'⟩ := size_bounds (digits_ne_zero_of_readsAs hne h)
  constructor
  · by_contra hsmall
    have hten : (10 : ℚ) ^ (digitCount d.digits + d.exponent) ≤ 10 ^ (-400 : Int) :=
      zpow_le_zpow_right₀ (by norm_num) (by omega)
    have htwo : (10 : ℚ) ^ (-400 : Int) ≤ 2 ^ (-1075 : Int) := by
      have hpow := two_pow_le_ten_pow (n := 1075) (t := 400) (by decide)
      rw [zpow_neg, zpow_neg]
      refine inv_anti₀ (by positivity) ?_
      exact_mod_cast hpow
    exact absurd (hhigh'.trans_le (hten.trans htwo)) (not_lt.mpr hlow)
  · by_contra hlarge
    have hten : (10 : ℚ) ^ (400 : Int) ≤ 10 ^ (digitCount d.digits + d.exponent - 1) :=
      zpow_le_zpow_right₀ (by norm_num) (by omega)
    have htwo : (2 : ℚ) ^ (1024 : Int) ≤ 10 ^ (400 : Int) := by
      have hpow := two_pow_le_ten_pow (n := 1024) (t := 400) (by decide)
      exact_mod_cast hpow
    exact absurd ((hten.trans hlow').trans_lt hhigh) (not_lt.mpr htwo)

end Decimal

/-- A text whose decimal reads as a double has the double for its value. -/
theorem DecimalText.value_eq {t : DecimalText} {x : Finite double} (hne : x.significand ≠ 0)
    (hnegative : t.negative = x.negative) (h : (decimalOf t).readsAs x = true) : t.value double = .finite x := by
  have hdigits := digits_ne_zero_of_readsAs hne h
  obtain ⟨hlow, hhigh⟩ := Decimal.place_bounds hne h
  rw [Decimal.readsAs_iff, ← hnegative] at h
  unfold decimalOf at hdigits hlow hhigh h
  dsimp only at hdigits hlow hhigh
  unfold DecimalText.value
  dsimp only
  rw [if_neg hdigits, if_neg (not_lt.mpr hlow), if_neg (not_lt.mpr hhigh)]
  unfold Decimal.ratio at h
  dsimp only at h
  by_cases he : 0 ≤ t.scale - t.fraction.length
  · rw [if_pos he] at h ⊢
    rw [Extended.ofRatio, h]
  · rw [if_neg he] at h ⊢
    rw [Extended.ofRatio, h]

theorem DecimalText.value_zero {t : DecimalText} (h : (decimalOf t).digits = 0) :
    t.value double = .finite (Finite.zero double t.negative) := if_pos h

/-! ## Reading -/

theorem toLower_of_isDigit {d : Char} (hd : d.isDigit = true) : d.toLower = d := by
  have hhigh : d.val ≤ 57 := by
    simp only [Char.isDigit, Bool.and_eq_true, decide_eq_true_eq] at hd
    exact hd.2
  delta Char.toLower
  rw [dif_neg]
  rintro ⟨hlow, -⟩
  have hle := UInt32.le_trans hlow hhigh
  exact absurd hle (by decide)

theorem isWord_of_isDigit {word : String} {d : Char} {rest : List Char} (hd : d.isDigit = true)
    (hword : (word.toList.head?.all fun c => !c.isDigit) = true) : isWord word (d :: rest) = false := by
  rw [isWord, List.map_cons, toLower_of_isDigit hd, beq_eq_false_iff_ne]
  intro heq
  rw [← heq, List.head?_cons, Option.all_some, hd] at hword
  cases hword

theorem takeSign_of_isDigit {d : Char} {rest : List Char} (hd : d.isDigit = true) :
    takeSign (d :: rest) = (false, d :: rest) := by
  have hminus : d ≠ '-' := by rintro rfl; cases hd
  have hplus : d ≠ '+' := by rintro rfl; cases hd
  simp [takeSign, hminus, hplus]

/-- A number of JSON is read with its own value. -/
theorem ofText?_of_unsignedSpelled {t : DecimalText} {cs : List Char} (h : UnsignedSpelled t cs) :
    Extended.ofText? double (String.ofList ((if t.negative then ['-'] else []) ++ cs)) =
      some (t.value double) := by
  obtain ⟨hwhole, hlead, hfraction, hexponent⟩ := h
  next fraction exponent =>
  have hdecimal := Json.decimalText?_append hwhole hfraction hexponent
  obtain ⟨d, rest, hcs⟩ := List.exists_cons_of_ne_nil hwhole.1
  have hd : d.isDigit = true := hwhole.2 d (hcs ▸ List.mem_cons_self)
  rw [hcs, List.cons_append] at hdecimal ⊢
  have hsign : takeSign ((if t.negative then ['-'] else []) ++ d :: (rest ++ (fraction ++ exponent))) =
      (t.negative, d :: (rest ++ (fraction ++ exponent))) := by
    cases t.negative with
    | true => rfl
    | false => exact takeSign_of_isDigit hd
  rw [Extended.ofText?, String.toList_ofList, hsign]
  dsimp only
  rw [isWord_of_isDigit hd (by decide), isWord_of_isDigit hd (by decide), isWord_of_isDigit hd (by decide),
    hdecimal]
  rfl

/-- A double is read back from its text, in any layout. -/
theorem ofText?_write (layout : Layout) {x : Finite double} (hx : x.Canonical) :
    Extended.ofText? double (layout.write x) = some (.finite x) := by
  unfold Layout.write
  dsimp only
  by_cases hzero : x.isZero = true
  · obtain ⟨t, hnegative, hspelled, hdigits, -⟩ := exists_zero x.negative layout.pointZero
    rw [if_pos hzero, ← hnegative, ofText?_of_unsignedSpelled hspelled, DecimalText.value_zero hdigits, hnegative]
    congr 2
    have hsignificand : x.significand = 0 := by simpa [Finite.isZero] using hzero
    have hexponent : x.exponent = -1074 := hx.full.resolve_right (by rw [hsignificand]; decide)
    obtain ⟨negative, significand, exponent⟩ := x
    dsimp only at hsignificand hexponent
    rw [hsignificand, hexponent]
    rfl
  · have hne : x.significand ≠ 0 := by simpa [Finite.isZero] using hzero
    have hreads := hx.readsAs_shortest (Bool.eq_false_iff.mpr hzero)
    have hdigits := digits_ne_zero_of_readsAs hne hreads
    have hsize : (natOfDigits (Nat.toDigits 10 x.shortest.digits) : ℚ) *
        10 ^ ((Nat.toDigits 10 x.shortest.digits).length + x.shortest.exponent -
          (Nat.toDigits 10 x.shortest.digits).length) = x.shortest.size := by
      rw [natOfDigits_toDigits, add_sub_cancel_left]
      rfl
    have hvalue : ∀ t : DecimalText, t.negative = x.negative → (decimalOf t).size = x.shortest.size →
        t.value double = .finite x := fun t hnegative hsame =>
      DecimalText.value_eq hne hnegative ((Decimal.readsAs_congr hsame).mpr hreads)
    rw [if_neg hzero]
    by_cases hpositional :
        layout.positional ((Nat.toDigits 10 x.shortest.digits).length + x.shortest.exponent) = true
    · obtain ⟨t, hnegative, hspelled, hplaced, -⟩ := isPlaced_placed layout (isLed_toDigits hdigits)
        ((Nat.toDigits 10 x.shortest.digits).length + x.shortest.exponent) x.negative
      rw [if_pos hpositional, ← hnegative, ofText?_of_unsignedSpelled hspelled,
        hvalue t hnegative (hplaced.trans hsize)]
    · obtain ⟨t, hnegative, hspelled, hscientific, -⟩ := exists_scientific layout (isLed_toDigits hdigits)
        ((Nat.toDigits 10 x.shortest.digits).length + x.shortest.exponent) x.negative
      rw [if_neg hpositional, ← hnegative, ofText?_of_unsignedSpelled hspelled,
        hvalue t hnegative (hscientific.trans hsize)]

end ChatAssistant.Number
