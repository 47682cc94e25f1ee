import ChatAssistant.Proofs.Json.Figures
import ChatAssistant.Proofs.Yaml.Plain

/-!
# Numbers as plain scalars

Whatever a number is, its text is made of digits, points, signs and the mark of an exponent, and starts with
a digit or with a minus sign and a digit.
-/

namespace ChatAssistant.Yaml

open ChatAssistant.Number

/-! ## Figures -/

/-- A character of the text of a number. -/
def isFigure (c : Char) : Bool := c.isDigit || c == '.' || c == 'e' || c == '-' || c == '+'

/-- Figures that start with a digit. -/
def StartsWithDigit : List Char → Prop
  | [] => False
  | d :: rest => d.isDigit = true ∧ ∀ c ∈ rest, isFigure c = true

theorem isFigure_of_isDigit {c : Char} (h : c.isDigit = true) : isFigure c = true := by simp [isFigure, h]

theorem StartsWithDigit.append {cs more : List Char} (h : StartsWithDigit cs)
    (hmore : ∀ c ∈ more, isFigure c = true) : StartsWithDigit (cs ++ more) := by
  cases cs with
  | nil => exact h.elim
  | cons d rest =>
    refine ⟨h.1, fun c hc => ?_⟩
    rcases List.mem_append.mp hc with hc | hc
    · exact h.2 c hc
    · exact hmore c hc

theorem StartsWithDigit.cons {d : Char} {cs : List Char} (hd : d.isDigit = true)
    (hcs : ∀ c ∈ cs, isFigure c = true) : StartsWithDigit (d :: cs) := ⟨hd, hcs⟩

theorem isFigure_of_mem_zeros {n : Nat} : ∀ c ∈ List.replicate n '0', isFigure c = true := by
  intro c hc
  rw [List.eq_of_mem_replicate hc]
  rfl

section

variable {ds : List Char} (hds : Json.IsDigits ds)

include hds

theorem isFigure_of_mem_digits : ∀ c ∈ ds, isFigure c = true := fun c hc => isFigure_of_isDigit (hds.2 c hc)

theorem startsWithDigit_digits : StartsWithDigit ds := by
  cases ds with
  | nil => exact absurd rfl hds.1
  | cons d rest => exact ⟨hds.2 d List.mem_cons_self, fun c hc =>
      isFigure_of_isDigit (hds.2 c (List.mem_cons_of_mem d hc))⟩

theorem startsWithDigit_placed (layout : Layout) (k : Int) : StartsWithDigit (layout.placed ds k) := by
  have hfigures := isFigure_of_mem_digits hds
  rw [Layout.placed]
  split
  · refine ((startsWithDigit_digits hds).append isFigure_of_mem_zeros).append ?_
    split <;> exact List.all_eq_true.mp rfl
  · split
    · next hk hpos =>
      cases ds with
      | nil => exact absurd rfl hds.1
      | cons d rest =>
        obtain ⟨j, hj⟩ : ∃ j, k.toNat = j + 1 := ⟨k.toNat - 1, by omega⟩
        rw [hj, List.take_succ_cons, List.drop_succ_cons]
        refine .cons (hds.2 d List.mem_cons_self) fun c hc => ?_
        rcases List.mem_append.mp hc with hc | hc
        · exact hfigures c (List.mem_cons_of_mem d (List.mem_of_mem_take hc))
        · rcases List.mem_cons.mp hc with rfl | hc
          · rfl
          · exact hfigures c (List.mem_cons_of_mem d (List.mem_of_mem_drop hc))
    · exact (StartsWithDigit.cons (d := '0') rfl
        (List.forall_mem_cons.mpr ⟨rfl, isFigure_of_mem_zeros⟩)).append hfigures

theorem startsWithDigit_scientific (layout : Layout) (k : Int) : StartsWithDigit (layout.scientific ds k) := by
  have hfigures := isFigure_of_mem_digits hds
  have hexponent := isFigure_of_mem_digits (Json.isDigits_toDigits (k - 1).natAbs)
  cases ds with
  | nil => exact absurd rfl hds.1
  | cons d rest =>
    rw [List.forall_mem_cons] at hfigures
    refine (StartsWithDigit.append ?_ ?_).append hexponent
    · dsimp only
      split
      · exact .cons (hds.2 d List.mem_cons_self) fun c hc => by cases hc
      · exact .cons (hds.2 d List.mem_cons_self) (List.forall_mem_cons.mpr ⟨rfl, hfigures.2⟩)
    · refine List.forall_mem_cons.mpr ⟨rfl, ?_⟩
      split
      · exact List.all_eq_true.mp rfl
      · split <;> exact List.all_eq_true.mp rfl

end

/-! ## Numbers -/

-- In every layout a value is a sign, if there is one, and figures that start with a digit.
theorem exists_write {f : Format} (layout : Layout) (x : Finite f) :
    ∃ sign cs, (layout.write x).toList = sign ++ cs ∧ (sign = [] ∨ sign = ['-']) ∧ StartsWithDigit cs := by
  have hsign : (if x.negative then ['-'] else []) = [] ∨ (if x.negative then ['-'] else []) = ['-'] := by
    split <;> simp
  rw [Layout.write]
  dsimp only
  split
  · refine ⟨_, _, String.toList_ofList, hsign, rfl, ?_⟩
    split <;> exact List.all_eq_true.mp rfl
  · refine ⟨_, _, String.toList_ofList, hsign, ?_⟩
    split
    · exact startsWithDigit_placed (Json.isDigits_toDigits _) _ _
    · exact startsWithDigit_scientific (Json.isDigits_toDigits _) _ _

-- The text of a number is a sign, if there is one, and figures that start with a digit.
theorem exists_writeNumber (n : Json.Number) :
    ∃ sign cs, writeNumber n = sign ++ cs ∧ (sign = [] ∨ sign = ['-']) ∧ StartsWithDigit cs := by
  cases n with
  | int n =>
    refine ⟨if n < 0 then ['-'] else [], Nat.toDigits 10 n.natAbs, ?_, ?_,
      startsWithDigit_digits (Json.isDigits_toDigits n.natAbs)⟩
    · rw [writeNumber]
      split <;> rfl
    · split <;> simp
  | float x => exact exists_write numberLayout x

-- No sign of the grammar is a figure.
theorem ne_of_isFigure {c : Char} (h : isFigure c = true) {d : Char} (hd : isFigure d = false) : c ≠ d := by
  rintro rfl
  rw [hd] at h
  cases h

theorem isBlank_of_isFigure {c : Char} (h : isFigure c = true) : isBlank c = false := by
  simp only [isBlank, Bool.or_eq_false_iff, beq_eq_false_iff_ne]
  exact ⟨ne_of_isFigure h rfl, ne_of_isFigure h rfl⟩

theorem isAnyBreak_of_isFigure {c : Char} (h : isFigure c = true) : isAnyBreak c = false := by
  simp only [isAnyBreak, isBreak, Bool.or_eq_false_iff, beq_eq_false_iff_ne]
  exact ⟨⟨⟨⟨ne_of_isFigure h rfl, ne_of_isFigure h rfl⟩, ne_of_isFigure h rfl⟩, ne_of_isFigure h rfl⟩,
    ne_of_isFigure h rfl⟩

theorem isSeparatedBy_cons_of_isFigure {c : Char} (h : isFigure c = true) (cs : List Char) :
    isSeparatedBy (c :: cs) = false := by
  rw [isSeparatedBy, isBlank_of_isFigure h, isAnyBreak_of_isFigure h]
  exact beq_eq_false_iff_ne.mpr (ne_of_isFigure h rfl)

theorem isVisible_of_isFigure {c : Char} (h : isFigure c = true) : isVisible c = true := by
  simp only [isFigure, Bool.or_eq_true, beq_iff_eq] at h
  rcases h with (((h | rfl) | rfl) | rfl) | rfl
  · simp only [Char.isDigit, Bool.and_eq_true, decide_eq_true_eq, ge_iff_le, UInt32.le_iff_toNat_le] at h
    have hlow : 48 ≤ c.toNat := h.1
    have hhigh : c.toNat ≤ 57 := h.2
    simp [isVisible]
    omega
  all_goals decide

-- Nothing inside a number ends a plain scalar.
theorem hasInnerIndicator_of_isFigure {cs : List Char} (h : ∀ c ∈ cs, isFigure c = true) (afterBlank : Bool) :
    hasInnerIndicator afterBlank cs = false := by
  induction cs generalizing afterBlank with
  | nil => rfl
  | cons c cs ih =>
    rw [List.forall_mem_cons] at h
    rw [hasInnerIndicator, ih h.2, beq_eq_false_iff_ne.mpr (ne_of_isFigure h.1 rfl),
      beq_eq_false_iff_ne.mpr (ne_of_isFigure h.1 rfl)]
    rfl

-- A figure starts a plain scalar; a minus sign does so where another figure follows.
theorem startsWithIndicator_of_isFigure {c : Char} {cs : List Char} (h : isFigure c = true)
    (hminus : c = '-' → isSeparatedBy cs = false) : startsWithIndicator (c :: cs) = false := by
  have hsigns : "#,[]&*!|>'\"%@`".toList.contains c = false := by
    have hnone : ∀ sign ∈ "#,[]&*!|>'\"%@`".toList, isFigure sign = false := eq_false_of_mem rfl
    rw [List.contains_eq_mem, decide_eq_false_iff_not]
    intro hmem
    rw [hnone c hmem] at h
    cases h
  have hword : ((c == '?' || c == ':' || c == '-') && isSeparatedBy cs) = false := by
    rw [beq_eq_false_iff_ne.mpr (ne_of_isFigure h rfl), beq_eq_false_iff_ne.mpr (ne_of_isFigure h rfl)]
    by_cases hc : c = '-'
    · rw [hminus hc, Bool.and_false]
    · rw [beq_eq_false_iff_ne.mpr hc]
      rfl
  rw [startsWithIndicator, hsigns, hword, beq_eq_false_iff_ne.mpr (ne_of_isFigure h rfl),
    beq_eq_false_iff_ne.mpr (ne_of_isFigure h rfl)]
  rfl

theorem plainText_of_isFigure {c : Char} {cs : List Char} (h : ∀ d ∈ c :: cs, isFigure d = true)
    (hminus : c = '-' → isSeparatedBy cs = false) : PlainText (c :: cs) where
  ne_nil := List.cons_ne_nil c cs
  line d hd := Bool.eq_false_iff.mpr fun hbreak => by
    have := isAnyBreak_of_isFigure (h d hd)
    rw [isAnyBreak_of_isBreak hbreak] at this
    cases this
  start := startsWithIndicator_of_isFigure (h c List.mem_cons_self) hminus
  inner := hasInnerIndicator_of_isFigure h true
  first := isBlank_of_isFigure (h c List.mem_cons_self)
  last := by
    cases hlast : (c :: cs).getLast? with
    | none => rfl
    | some d => exact isBlank_of_isFigure (h d (List.mem_of_getLast? hlast))

theorem writeNumber_figures (n : Json.Number) :
    PlainText (writeNumber n) ∧ ∀ c ∈ writeNumber n, isFigure c = true := by
  obtain ⟨sign, cs, hn, hsign, hcs⟩ := exists_writeNumber n
  rw [hn]
  cases cs with
  | nil => exact hcs.elim
  | cons d rest =>
    have hfigures : ∀ c ∈ d :: rest, isFigure c = true :=
      List.forall_mem_cons.mpr ⟨isFigure_of_isDigit hcs.1, hcs.2⟩
    rcases hsign with rfl | rfl
    · refine ⟨plainText_of_isFigure hfigures ?_, hfigures⟩
      rintro rfl
      exact absurd hcs.1 (by decide)
    · have hall : ∀ c ∈ '-' :: d :: rest, isFigure c = true := List.forall_mem_cons.mpr ⟨rfl, hfigures⟩
      exact ⟨plainText_of_isFigure hall fun _ => isSeparatedBy_cons_of_isFigure (isFigure_of_isDigit hcs.1) rest,
        hall⟩

end ChatAssistant.Yaml
