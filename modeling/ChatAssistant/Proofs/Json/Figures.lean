import ChatAssistant.Json.Printer
import ChatAssistant.Proofs.Json.Layouts
import ChatAssistant.Proofs.Json.Scaling
import ChatAssistant.Proofs.Json.Valued

/-!
# Written numbers

The figures of a number, as the writer puts them down, are a number of JSON: they start with the digit
zero only where nothing else stands before the point.  A count is read back as it was, and a small value
is read as a number that fits into a double.
-/

namespace ChatAssistant.Json

open ChatAssistant.Number

/-! ## Counts -/

/-- The text of a count. -/
def countText (n : Nat) : DecimalText := ⟨false, Nat.toDigits 10 n, [], false, []⟩

theorem numberSpelled_writeInt (n : Nat) : NumberSpelled (countText n) (writeInt n) := by
  have hlead : (Nat.toDigits 10 n).head? = some '0' → Nat.toDigits 10 n = ['0'] := by
    intro hhead
    by_cases hzero : n = 0
    · subst hzero
      rfl
    · exact absurd hhead (isLed_toDigits hzero).head
  have hspelled : UnsignedSpelled (countText n) (Nat.toDigits 10 n ++ ([] ++ [])) :=
    .intro (isDigits_toDigits n) hlead .absent .absent
  rw [List.append_nil, List.append_nil] at hspelled
  unfold writeInt
  rw [if_neg (by omega), Int.natAbs_natCast]
  exact .positive rfl hspelled

theorem ofText?_countText {n : Nat} (h : n ≤ maxCount) :
    Number.ofText? (countText n) = some (.int n) := by
  simp [Number.ofText?, countText, natOfDigits_toDigits, h]

theorem count?_countText {n : Nat} (h : n ≤ maxCount) : (Raw.number (countText n)).count? = some n := by
  rw [Raw.count?, ofText?_countText h, Option.bind_some, Number.toCount?, if_pos (by omega),
    Int.toNat_natCast]

/-! ## Layouts -/

/-- The characters spell a number that has a value, with its sign left out. -/
def Spells (cs : List Char) (negative : Bool) : Prop :=
  ∃ t : DecimalText, t.negative = negative ∧ UnsignedSpelled t cs ∧ Small t

theorem spells_placed (layout : Layout) {ds : List Char} (h : IsLed ds) {k : Int} (hk : k ≤ 19)
    (negative : Bool) : Spells (layout.placed ds k) negative := by
  obtain ⟨t, hnegative, hspelled, -, hexponent, hlength⟩ := isPlaced_placed layout h k negative
  exact ⟨t, hnegative, hspelled, hspelled.isDigits_whole.2, by omega, .inl hexponent⟩

theorem spells_scientific (layout : Layout) {ds : List Char} (h : IsLed ds) {k : Int} (hk : k ≤ 0)
    (negative : Bool) : Spells (layout.scientific ds k) negative := by
  obtain ⟨t, hnegative, hspelled, -, hexponent, hlength⟩ := exists_scientific layout h k negative
  refine ⟨t, hnegative, hspelled, hspelled.isDigits_whole.2, by omega, .inr ?_⟩
  rw [hexponent, decide_eq_true (by omega)]

theorem spells_zero (negative point : Bool) : Spells ('0' :: if point then ['.', '0'] else []) negative := by
  obtain ⟨t, hnegative, hspelled, -, hexponent, hlength⟩ := exists_zero negative point
  exact ⟨t, hnegative, hspelled, hspelled.isDigits_whole.2, by omega, .inl hexponent⟩

theorem exists_spells_write {f : Format} {layout : Layout} {x : Finite f} (hx : x.Within 1)
    (hlayout : ∀ k ≤ 4, layout.positional k = false → k ≤ 0) :
    ∃ cs, Spells cs x.negative ∧
      layout.write x = String.ofList ((if x.negative then ['-'] else []) ++ cs) := by
  unfold Layout.write
  dsimp only
  by_cases hzero : x.isZero = true
  · rw [if_pos hzero]
    exact ⟨_, spells_zero x.negative layout.pointZero, rfl⟩
  · rw [if_neg hzero]
    refine ⟨_, ?_, rfl⟩
    obtain ⟨hne, hplace⟩ := Finite.low_shortest hx (Bool.eq_false_iff.mpr hzero)
    have hled := isLed_toDigits hne
    unfold digitCount at hplace
    by_cases hpositional :
        layout.positional ((Nat.toDigits 10 x.shortest.digits).length + x.shortest.exponent) = true
    · rw [if_pos hpositional]
      exact spells_placed layout hled (by omega) x.negative
    · rw [if_neg hpositional]
      exact spells_scientific layout hled (hlayout _ hplace (Bool.eq_false_iff.mpr hpositional))
        x.negative

/-- A value that is at most two is written as a number that is read. -/
theorem exists_numberSpelled_write {f : Format} {layout : Layout} {x : Finite f} (hx : x.Within 1)
    (hlayout : ∀ k ≤ 4, layout.positional k = false → k ≤ 0) :
    ∃ t, NumberSpelled t (layout.write x).toList ∧ Small t := by
  obtain ⟨cs, ⟨t, hnegative, hspelled, hsmall⟩, hwrite⟩ := exists_spells_write hx hlayout
  refine ⟨t, ?_, hsmall⟩
  rw [hwrite, String.toList_ofList]
  cases hsign : x.negative with
  | true => exact .negative (hnegative.trans hsign) hspelled
  | false => exact .positive (hnegative.trans hsign) hspelled

end ChatAssistant.Json
