import ChatAssistant.Json.Printer
import ChatAssistant.Proofs.Json.Document
import ChatAssistant.Proofs.Json.Layouts
import ChatAssistant.Proofs.Json.Scaling

/-!
# Texts that are kept

An integer of sixty-four bits has one spelling only, so that it is printed as it was written.  A text without
white space that is a document of one token is that token.
-/

namespace ChatAssistant.Json

open ChatAssistant.Number

/-! ## Digits -/

theorem digitChar_digitValue {c : Char} (h : c.isDigit = true) : (digitValue c).digitChar = c := by
  have hvalue := digitValue_lt_ten h
  simp only [Char.isDigit, Bool.and_eq_true, decide_eq_true_eq] at h
  have hlow : 48 ≤ c.toNat := h.1
  have hzero : '0'.toNat = 48 := rfl
  apply Char.toNat_inj.mp
  rw [Nat.toNat_digitChar_of_lt_ten hvalue, digitValue]
  omega

/-- Digits without a superfluous zero are the ones that their number is printed with. -/
theorem toDigits_natOfDigits {ds : List Char} (h : IsDigits ds) (hlead : ds.head? = some '0' → ds = ['0']) :
    Nat.toDigits 10 (natOfDigits ds) = ds := by
  induction ds using List.reverseRecOn with
  | nil => exact absurd rfl h.1
  | append_singleton ds c ih =>
    obtain ⟨hds, hc⟩ := List.forall_mem_append.mp h.2
    have hdigit := hc c (List.mem_singleton_self c)
    have hvalue := digitValue_lt_ten hdigit
    have hlast : natOfDigits (ds ++ [c]) = natOfDigits ds * 10 + digitValue c := by
      rw [natOfDigits_append, List.length_singleton, pow_one]
      simp [natOfDigits]
    rw [hlast]
    by_cases hnone : ds = []
    · subst hnone
      have hzero : natOfDigits [] = 0 := rfl
      rw [hzero, Nat.zero_mul, Nat.zero_add, Nat.toDigits_of_lt_base hvalue, digitChar_digitValue hdigit,
        List.nil_append]
    · -- The digits before the last one do not start with a zero, so that their number is not zero.
      have hhead : ds.head? ≠ some '0' := by
        intro hhead
        have hall := hlead (by rw [List.head?_append_of_ne_nil _ hnone, hhead])
        rw [List.append_eq_singleton_iff] at hall
        simp [hnone] at hall
      have hbefore := ih ⟨hnone, hds⟩ fun hhead' => absurd hhead' hhead
      have hpositive : 0 < natOfDigits ds := by
        refine Nat.pos_of_ne_zero fun hzero => hhead ?_
        rw [hzero] at hbefore
        rw [← hbefore]
        rfl
      have hdiv : (natOfDigits ds * 10 + digitValue c) / 10 = natOfDigits ds := by omega
      have hmod : (natOfDigits ds * 10 + digitValue c) % 10 = digitValue c := by omega
      rw [Nat.toDigits_of_base_le (by decide) (by omega), hdiv, hmod, hbefore, digitChar_digitValue hdigit]

/-! ## Integers -/

theorem UnsignedSpelled.eq_whole {t : DecimalText} {cs : List Char} (h : UnsignedSpelled t cs)
    (hfraction : t.fraction = []) (hexponent : t.exponent = []) :
    cs = t.whole ∧ Nat.toDigits 10 (natOfDigits t.whole) = t.whole := by
  obtain ⟨hwhole, hlead, hfractionSpelled, hexponentSpelled⟩ := h
  refine ⟨?_, toDigits_natOfDigits hwhole hlead⟩
  rw [hfraction] at hfractionSpelled
  rw [hexponent] at hexponentSpelled
  generalize t.exponentNegative = negative at hexponentSpelled
  cases hfractionSpelled with
  | absent =>
    cases hexponentSpelled with
    | absent => rw [List.append_nil, List.append_nil]
    | present _ _ hds => exact absurd rfl hds.1
  | present hds => exact absurd rfl hds.1

/-- An integer of sixty-four bits is printed as it was written. -/
theorem NumberSpelled.writeInt_eq {t : DecimalText} {cs : List Char} {i : Int} (h : NumberSpelled t cs)
    (hread : Number.ofText? t = some (.int i)) : writeInt i = cs := by
  cases isRead_of_ofText? hread with
  | positive hfraction hexponent hsign =>
    cases h with
    | negative hnegative => exact absurd (hsign.symm.trans hnegative) Bool.false_ne_true
    | positive _ hspelled =>
      obtain ⟨rfl, hdigits⟩ := hspelled.eq_whole hfraction hexponent
      rw [writeInt, if_neg (by omega), Int.natAbs_natCast, hdigits]
  | negative hfraction hexponent hsign hne =>
    cases h with
    | positive hpositive => exact absurd (hpositive.symm.trans hsign) Bool.false_ne_true
    | negative _ hspelled =>
      obtain ⟨rfl, hdigits⟩ := hspelled.eq_whole hfraction hexponent
      rw [writeInt, if_pos (by omega), Int.natAbs_neg, Int.natAbs_natCast, hdigits]

/-! ## Documents without white space -/

theorem Writes.isSpace_of_nil {cs : List Char} (h : Writes cs []) : ∀ c ∈ cs, isSpace c = true := by
  generalize htokens : ([] : List Token) = tokens at h
  induction h with
  | nil => exact List.forall_mem_nil _
  | space hc _ ih => exact List.forall_mem_cons.mpr ⟨hc, ih htokens⟩
  | token => cases htokens

/-- A text without white space that writes one token is a spelling of the token. -/
theorem Writes.spelled {cs : List Char} {token : Token} (h : Writes cs [token])
    (hunbroken : ∀ c ∈ cs, isSpace c = false) : token.Spelled cs := by
  obtain ⟨blanks, lexeme, rest, rfl, hblanks, hspelled, hrest⟩ := h.exists_first
  rw [List.forall_mem_append, List.forall_mem_append] at hunbroken
  have hnone : ∀ {ds : List Char}, (∀ c ∈ ds, isSpace c = true) → (∀ c ∈ ds, isSpace c = false) → ds = [] := by
    intro ds hspace hother
    refine List.eq_nil_iff_forall_not_mem.mpr fun c hc => ?_
    have hother := hother c hc
    rw [hspace c hc] at hother
    cases hother
  rw [hnone hblanks hunbroken.1, hnone hrest.isSpace_of_nil hunbroken.2.2, List.nil_append, List.append_nil]
  exact hspelled

end ChatAssistant.Json
