import ChatAssistant.Number.Layout
import ChatAssistant.Proofs.Json.Numeral
import ChatAssistant.Proofs.Number.Digits

/-!
# The texts of layouts

A layout puts the digits of a decimal down in one of two ways.  Either way the text is a number of JSON that
stands for the decimal.
-/

namespace ChatAssistant.Json

open ChatAssistant.Number

/-! ## Digits -/

theorem isDigits_toDigits (n : Nat) : IsDigits (Nat.toDigits 10 n) :=
  ⟨Nat.toDigits_ne_nil, fun _ hc => Nat.isDigit_of_mem_toDigits (by decide) (by decide) hc⟩

/-- Digits that do not start with a zero. -/
structure IsLed (ds : List Char) : Prop where
  digits : IsDigits ds
  head : ds.head? ≠ some '0'

theorem isLed_toDigits {n : Nat} (h : n ≠ 0) : IsLed (Nat.toDigits 10 n) := by
  refine ⟨isDigits_toDigits n, ?_⟩
  induction n using Nat.strongRecOn with
  | ind n ih =>
    by_cases hten : 10 ≤ n
    · have hrest := ih (n / 10) (by omega) (by omega)
      rw [Nat.toDigits_of_base_le (by decide) hten, List.head?_append_of_ne_nil _ Nat.toDigits_ne_nil]
      exact hrest
    · rw [Nat.toDigits_of_lt_base (by omega), List.head?_cons]
      intro hzero
      exact h ((Nat.digitChar_eq_zero).mp (Option.some.inj hzero))

theorem IsLed.lead {ds more : List Char} (h : IsLed ds) :
    (ds ++ more).head? = some '0' → ds ++ more = ['0'] := by
  rw [List.head?_append_of_ne_nil _ h.digits.1]
  exact fun hhead => absurd hhead h.head

theorem IsDigits.append_zeros {ds : List Char} (h : IsDigits ds) (n : Nat) :
    IsDigits (ds ++ List.replicate n '0') := by
  refine ⟨List.append_ne_nil_of_left_ne_nil h.1 _, fun c hc => ?_⟩
  rcases List.mem_append.mp hc with hc | hc
  · exact h.2 c hc
  · rw [List.eq_of_mem_replicate hc]
    rfl

theorem IsDigits.zeros_append {ds : List Char} (h : IsDigits ds) (n : Nat) :
    IsDigits (List.replicate n '0' ++ ds) := by
  refine ⟨List.append_ne_nil_of_right_ne_nil _ h.1, fun c hc => ?_⟩
  rcases List.mem_append.mp hc with hc | hc
  · rw [List.eq_of_mem_replicate hc]
    rfl
  · exact h.2 c hc

/-! ## The numbers that digits write -/

theorem natOfDigits_toDigits (n : Nat) : natOfDigits (Nat.toDigits 10 n) = n := by
  have hread : natOfDigits (Nat.toDigits 10 n) = Nat.ofDigitChars 10 (Nat.toDigits 10 n) 0 := by
    rw [Nat.ofDigitChars_eq_foldl, natOfDigits]
    simp only [digitValue, Nat.mul_comm]
  rw [hread, Nat.ofDigitChars_ten_toDigits]

theorem natOfDigits_append (ds es : List Char) :
    natOfDigits (ds ++ es) = natOfDigits ds * 10 ^ es.length + natOfDigits es := by
  have hfold : ∀ (es : List Char) (n : Nat),
      es.foldl (fun n c => n * 10 + digitValue c) n = n * 10 ^ es.length + natOfDigits es := by
    intro es
    induction es with
    | nil => exact fun n => (Nat.mul_one n).symm
    | cons e es ih =>
      intro n
      have hhead : natOfDigits (e :: es) = digitValue e * 10 ^ es.length + natOfDigits es := by
        rw [natOfDigits, List.foldl_cons, ih, Nat.zero_mul, Nat.zero_add]
      rw [List.foldl_cons, ih, hhead, List.length_cons, Nat.pow_succ]
      ring
  rw [natOfDigits, List.foldl_append]
  exact hfold es _

theorem digitValue_lt_ten {c : Char} (h : c.isDigit = true) : digitValue c < 10 := by
  simp only [Char.isDigit, Bool.and_eq_true, decide_eq_true_eq] at h
  have hlow : 48 ≤ c.toNat := h.1
  have hhigh : c.toNat ≤ 57 := h.2
  have hzero : '0'.toNat = 48 := rfl
  unfold digitValue
  omega

theorem natOfDigits_lt_pow {ds : List Char} (h : ∀ c ∈ ds, c.isDigit = true) :
    natOfDigits ds < 10 ^ ds.length := by
  induction ds using List.reverseRecOn with
  | nil => exact Nat.one_pos
  | append_singleton ds c ih =>
    obtain ⟨hds, hc⟩ := List.forall_mem_append.mp h
    have hvalue := digitValue_lt_ten (hc c (List.mem_singleton_self c))
    have hrest := ih hds
    have hlast : natOfDigits [c] = digitValue c := by simp [natOfDigits]
    rw [natOfDigits_append, hlast, List.length_append, List.length_singleton, pow_one, Nat.pow_succ]
    omega

theorem natOfDigits_zeros (n : Nat) : natOfDigits (List.replicate n '0') = 0 := by
  induction n with
  | zero => rfl
  | succ n ih =>
    rw [List.replicate_succ', natOfDigits_append, ih, Nat.zero_mul]
    rfl

theorem natOfDigits_append_zeros (ds : List Char) (n : Nat) :
    natOfDigits (ds ++ List.replicate n '0') = natOfDigits ds * 10 ^ n := by
  rw [natOfDigits_append, natOfDigits_zeros, List.length_replicate, Nat.add_zero]

/-! ## Layouts -/

/-- The decimal of a text, its sign left out. -/
def decimalOf (t : DecimalText) : Decimal :=
  ⟨natOfDigits (t.whole ++ t.fraction), t.scale - t.fraction.length⟩

theorem UnsignedSpelled.isDigits_whole {t : DecimalText} {cs : List Char} (h : UnsignedSpelled t cs) :
    IsDigits t.whole := by
  cases h with
  | intro hwhole => exact hwhole

-- Zero stands with a point and a zero behind it, or alone.
theorem exists_zero (negative point : Bool) :
    ∃ t : DecimalText, t.negative = negative ∧ UnsignedSpelled t ('0' :: if point then ['.', '0'] else []) ∧
      (decimalOf t).digits = 0 ∧ t.exponent = [] ∧ t.whole.length = 1 := by
  have hdigit : IsDigits ['0'] := isDigits_toDigits 0
  cases point with
  | true =>
    exact ⟨⟨negative, ['0'], ['0'], false, []⟩, rfl,
      .intro hdigit (fun _ => rfl) (.present hdigit) .absent, rfl, rfl, rfl⟩
  | false =>
    have hspelled : UnsignedSpelled ⟨negative, ['0'], [], false, []⟩ (['0'] ++ ([] ++ [])) :=
      .intro hdigit (fun _ => rfl) .absent .absent
    exact ⟨⟨negative, ['0'], [], false, []⟩, rfl, hspelled, rfl, rfl, rfl⟩

/-! ### With the point in its place -/

theorem size_decimalOf_point (negative : Bool) (whole fraction : List Char) :
    (decimalOf ⟨negative, whole, fraction, false, []⟩).size =
      natOfDigits (whole ++ fraction) * 10 ^ (-(fraction.length : Int)) := by
  change ((natOfDigits (whole ++ fraction) : Nat) : ℚ) * 10 ^ ((0 : Int) - fraction.length) = _
  rw [Int.zero_sub]

/-- A text without an exponent that stands for `0.ds * 10 ^ k`. -/
def IsPlaced (negative : Bool) (ds : List Char) (k : Int) (cs : List Char) : Prop :=
  ∃ t : DecimalText, t.negative = negative ∧ UnsignedSpelled t cs ∧
    (decimalOf t).size = natOfDigits ds * 10 ^ (k - ds.length) ∧ t.exponent = [] ∧
    (t.whole.length : Int) ≤ max 1 k

section Placed

variable {ds : List Char} {j : Nat} (negative : Bool)

theorem isPlaced_whole (h : IsLed ds) (point : Bool) :
    IsPlaced negative ds (ds.length + j)
      (ds ++ List.replicate j '0' ++ (if point then ['.', '0'] else [])) := by
  have hlength : ((ds ++ List.replicate j '0').length : Int) ≤ max 1 (ds.length + j : Int) := by
    rw [List.length_append, List.length_replicate]
    omega
  have hplace : ((ds.length : Int) + j - ds.length) = j := by omega
  cases point with
  | true =>
    refine ⟨⟨negative, ds ++ List.replicate j '0', ['0'], false, []⟩, rfl,
      .intro (h.digits.append_zeros j) h.lead (.present (isDigits_toDigits 0)) .absent, ?_, rfl, hlength⟩
    have hvalue : natOfDigits (ds ++ List.replicate j '0' ++ ['0']) = natOfDigits ds * 10 ^ j * 10 := by
      rw [← natOfDigits_append_zeros ds j]
      exact natOfDigits_append_zeros _ 1
    rw [size_decimalOf_point, hvalue, hplace, zpow_natCast, List.length_singleton, Nat.cast_one, zpow_neg_one]
    push_cast
    field_simp
  | false =>
    have hspelled : UnsignedSpelled ⟨negative, ds ++ List.replicate j '0', [], false, []⟩
        ((ds ++ List.replicate j '0') ++ ([] ++ [])) :=
      .intro (h.digits.append_zeros j) h.lead .absent .absent
    refine ⟨_, rfl, hspelled, ?_, rfl, hlength⟩
    rw [size_decimalOf_point, List.append_nil, natOfDigits_append_zeros, hplace, zpow_natCast, List.length_nil,
      Nat.cast_zero, neg_zero, zpow_zero, mul_one]
    push_cast
    rfl

theorem isPlaced_between (h : IsLed ds) (hpos : 0 < j) (hj : j < ds.length) :
    IsPlaced negative ds j (ds.take j ++ '.' :: ds.drop j) := by
  have htake : IsDigits (ds.take j) :=
    ⟨List.ne_nil_of_length_pos (by rw [List.length_take]; omega),
      fun c hc => h.digits.2 c (List.mem_of_mem_take hc)⟩
  have hdrop : IsDigits (ds.drop j) :=
    ⟨List.ne_nil_of_length_pos (by rw [List.length_drop]; omega),
      fun c hc => h.digits.2 c (List.mem_of_mem_drop hc)⟩
  have hlead : (ds.take j).head? = some '0' → ds.take j = ['0'] := by
    rw [List.head?_take, if_neg (by omega)]
    exact fun hhead => absurd hhead h.head
  rw [← List.append_nil ('.' :: ds.drop j)]
  refine ⟨⟨negative, ds.take j, ds.drop j, false, []⟩, rfl, .intro htake hlead (.present hdrop) .absent, ?_,
    rfl, ?_⟩
  · rw [size_decimalOf_point, List.take_append_drop, List.length_drop]
    congr 2
    omega
  · rw [List.length_take]
    omega

theorem isPlaced_behind (h : IsLed ds) :
    IsPlaced negative ds (-(j : Int)) ('0' :: '.' :: List.replicate j '0' ++ ds) := by
  have hspelled : UnsignedSpelled ⟨negative, ['0'], List.replicate j '0' ++ ds, false, []⟩
      (['0'] ++ ('.' :: (List.replicate j '0' ++ ds) ++ [])) :=
    .intro (isDigits_toDigits 0) (fun _ => rfl) (.present (h.digits.zeros_append j)) .absent
  rw [List.append_nil] at hspelled
  refine ⟨_, rfl, hspelled, ?_, rfl, le_max_left _ _⟩
  have hzeros : natOfDigits (['0'] ++ (List.replicate j '0' ++ ds)) = natOfDigits ds := by
    rw [← List.append_assoc, natOfDigits_append]
    change natOfDigits (List.replicate (j + 1) '0') * _ + _ = _
    rw [natOfDigits_zeros, Nat.zero_mul, Nat.zero_add]
  rw [size_decimalOf_point, hzeros, List.length_append, List.length_replicate]
  congr 2
  push_cast
  omega

end Placed

theorem isPlaced_placed (layout : Layout) {ds : List Char} (h : IsLed ds) (k : Int) (negative : Bool) :
    IsPlaced negative ds k (layout.placed ds k) := by
  unfold Layout.placed
  dsimp only
  split
  · next hlong =>
    obtain ⟨j, rfl⟩ : ∃ j : Nat, k = ds.length + j := ⟨(k - ds.length).toNat, by omega⟩
    rw [add_sub_cancel_left, Int.toNat_natCast]
    exact isPlaced_whole negative h layout.pointZero
  next hshort =>
  split
  · next hpos =>
    obtain ⟨j, rfl⟩ := Int.eq_ofNat_of_zero_le hpos.le
    rw [Int.toNat_natCast]
    exact isPlaced_between negative h (by omega) (by omega)
  · next hpos =>
    obtain ⟨j, rfl⟩ : ∃ j : Nat, k = -j := ⟨(-k).toNat, by omega⟩
    rw [Int.neg_neg, Int.toNat_natCast]
    exact isPlaced_behind negative h

/-! ### With an exponent -/

/-- The digits of an exponent with its sign. -/
def exponentText (layout : Layout) (e : Int) : List Char :=
  (if e < 0 then ['-'] else if layout.plusSign then ['+'] else []) ++ Nat.toDigits 10 e.natAbs

theorem exponentSpelled_exponentText (layout : Layout) (e : Int) :
    ExponentSpelled (decide (e < 0)) (Nat.toDigits 10 e.natAbs) ('e' :: exponentText layout e) := by
  refine .present (.inl rfl) ?_ (isDigits_toDigits _)
  by_cases hsign : e < 0
  · rw [if_pos hsign, decide_eq_true hsign]
    exact .minus
  · rw [if_neg hsign, decide_eq_false hsign]
    split
    · exact .plus
    · exact .absent

theorem scale_toDigits (negative : Bool) (whole fraction : List Char) (e : Int) :
    DecimalText.scale ⟨negative, whole, fraction, decide (e < 0), Nat.toDigits 10 e.natAbs⟩ = e := by
  unfold DecimalText.scale
  dsimp only
  rw [natOfDigits_toDigits]
  by_cases hsign : e < 0
  · rw [decide_eq_true hsign, if_pos rfl]
    omega
  · rw [decide_eq_false hsign, if_neg Bool.false_ne_true]
    omega

theorem exists_scientific (layout : Layout) {ds : List Char} (h : IsLed ds) (k : Int) (negative : Bool) :
    ∃ t : DecimalText, t.negative = negative ∧ UnsignedSpelled t (layout.scientific ds k) ∧
      (decimalOf t).size = natOfDigits ds * 10 ^ (k - ds.length) ∧ t.exponentNegative = decide (k - 1 < 0) ∧
      t.whole.length = 1 := by
  obtain ⟨d, rest, rfl⟩ := List.exists_cons_of_ne_nil h.digits.1
  have hfirst : IsDigits [d] :=
    ⟨List.cons_ne_nil _ _, fun c hc => h.digits.2 c (List.mem_singleton.mp hc ▸ List.mem_cons_self)⟩
  have hlead : [d].head? = some '0' → [d] = ['0'] := fun hhead => absurd hhead h.head
  -- The first digit stands before the point, and the exponent counts the places behind it.
  have hsize : (decimalOf ⟨negative, [d], rest, decide (k - 1 < 0), Nat.toDigits 10 (k - 1).natAbs⟩).size =
      natOfDigits (d :: rest) * 10 ^ (k - (d :: rest).length) := by
    unfold decimalOf Decimal.size
    dsimp only
    rw [scale_toDigits, List.singleton_append, List.length_cons]
    congr 2
    push_cast
    omega
  have hexponent := exponentSpelled_exponentText layout (k - 1)
  refine ⟨_, rfl, ?_, hsize, rfl, rfl⟩
  cases rest with
  | nil =>
    have htext : layout.scientific [d] k = [d] ++ ([] ++ 'e' :: exponentText layout (k - 1)) := rfl
    rw [htext]
    exact .intro hfirst hlead .absent hexponent
  | cons second rest =>
    have hrest : IsDigits (second :: rest) :=
      ⟨List.cons_ne_nil _ _, fun c hc => h.digits.2 c (List.mem_cons_of_mem d hc)⟩
    have htext : layout.scientific (d :: second :: rest) k =
        [d] ++ ('.' :: (second :: rest) ++ 'e' :: exponentText layout (k - 1)) := by
      simp [Layout.scientific, exponentText]
    rw [htext]
    exact .intro hfirst hlead (.present hrest) hexponent

end ChatAssistant.Json
