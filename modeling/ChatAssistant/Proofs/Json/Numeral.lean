import ChatAssistant.Json.Token
import Mathlib.Data.List.TakeWhile

/-!
# Numbers as JSON writes them

The spellings of a number: a minus sign or none, digits, perhaps a point with digits after it, perhaps
an exponent.  Reading the characters of a number accepts these and no others.
-/

namespace ChatAssistant.Json

open ChatAssistant.Number

/-- At least one digit. -/
def IsDigits (ds : List Char) : Prop := ds ≠ [] ∧ ∀ c ∈ ds, c.isDigit = true

/-- The digits after the point. -/
inductive FractionSpelled : List Char → List Char → Prop
  | absent : FractionSpelled [] []
  | present {ds : List Char} : IsDigits ds → FractionSpelled ds ('.' :: ds)

/-- The sign of an exponent, minus or not. -/
inductive SignSpelled : Bool → List Char → Prop
  | absent : SignSpelled false []
  | plus : SignSpelled false ['+']
  | minus : SignSpelled true ['-']

/-- An exponent: its sign and its digits. -/
inductive ExponentSpelled : Bool → List Char → List Char → Prop
  | absent : ExponentSpelled false [] []
  | present {mark : Char} {negative : Bool} {sign ds : List Char} :
      mark = 'e' ∨ mark = 'E' → SignSpelled negative sign → IsDigits ds →
        ExponentSpelled negative ds (mark :: (sign ++ ds))

/-- A number without its sign: only zero itself starts with the digit zero. -/
inductive UnsignedSpelled (t : DecimalText) : List Char → Prop
  | intro {fraction exponent : List Char} :
      IsDigits t.whole → (t.whole.head? = some '0' → t.whole = ['0']) →
      FractionSpelled t.fraction fraction →
      ExponentSpelled t.exponentNegative t.exponent exponent →
        UnsignedSpelled t (t.whole ++ (fraction ++ exponent))

/-- A number. -/
inductive NumberSpelled (t : DecimalText) : List Char → Prop
  | positive {cs : List Char} : t.negative = false → UnsignedSpelled t cs → NumberSpelled t cs
  | negative {cs : List Char} : t.negative = true → UnsignedSpelled t cs → NumberSpelled t ('-' :: cs)

theorem takeSign_spelled {negative : Bool} {cs ds : List Char} (h : takeSign cs = (negative, ds)) :
    ∃ sign, SignSpelled negative sign ∧ cs = sign ++ ds := by
  unfold takeSign at h
  split at h <;> cases h
  · exact ⟨['-'], .minus, rfl⟩
  · exact ⟨['+'], .plus, rfl⟩
  · exact ⟨[], .absent, rfl⟩

theorem takeSign_of_isDigits {ds : List Char} (h : IsDigits ds) : takeSign ds = (false, ds) := by
  unfold takeSign
  split
  · exact absurd (h.2 '-' List.mem_cons_self) (by decide)
  · exact absurd (h.2 '+' List.mem_cons_self) (by decide)
  · rfl

theorem SignSpelled.takeSign_append {negative : Bool} {sign ds : List Char}
    (h : SignSpelled negative sign) (hds : IsDigits ds) :
    takeSign (sign ++ ds) = (negative, ds) := by
  cases h with
  | absent => exact takeSign_of_isDigits hds
  | plus => rfl
  | minus => rfl

theorem isDigits_iff {ds : List Char} :
    IsDigits ds ↔ (ds.isEmpty || !ds.all Char.isDigit) = false := by
  simp [IsDigits]

theorem exponentSpelled_of_exponent? {cs ds : List Char} {negative : Bool}
    (h : exponent? cs = some (negative, ds)) : ExponentSpelled negative ds cs := by
  match cs with
  | [] => cases h; exact .absent
  | mark :: more =>
    rw [exponent?] at h
    split at h
    · next hmark =>
      rcases htake : takeSign more with ⟨negative', ds'⟩
      obtain ⟨sign, hsign, rfl⟩ := takeSign_spelled htake
      rw [htake] at h
      dsimp only at h
      split at h
      · cases h
      · next hdigits =>
        cases h
        exact .present hmark hsign (isDigits_iff.mpr (by simpa using hdigits))
    · cases h

theorem ExponentSpelled.exponent?_eq {cs ds : List Char} {negative : Bool}
    (h : ExponentSpelled negative ds cs) : exponent? cs = some (negative, ds) := by
  cases h with
  | absent => rfl
  | present hmark hsign hds =>
    rw [exponent?, if_pos hmark, hsign.takeSign_append hds]
    simp only [isDigits_iff.mp hds, Bool.false_eq_true, if_false]

theorem ExponentSpelled.head?_not_isDigit {cs ds : List Char} {negative : Bool}
    (h : ExponentSpelled negative ds cs) {c : Char} (hc : cs.head? = some c) :
    c.isDigit = false ∧ c ≠ '.' := by
  cases h with
  | absent => cases hc
  | present hmark =>
    cases hc
    rcases hmark with rfl | rfl <;> decide

-- Digits end where something else begins.
theorem takeWhile_isDigit_append {ds rest : List Char} (hds : ∀ d ∈ ds, d.isDigit = true)
    (hrest : ∀ c, rest.head? = some c → c.isDigit = false) :
    (ds ++ rest).takeWhile Char.isDigit = ds ∧ (ds ++ rest).dropWhile Char.isDigit = rest := by
  have hnone : rest.takeWhile Char.isDigit = [] ∧ rest.dropWhile Char.isDigit = rest := by
    cases rest with
    | nil => exact ⟨rfl, rfl⟩
    | cons c more => simp [hrest c rfl]
  rw [List.takeWhile_append_of_pos hds, List.dropWhile_append_of_pos hds, hnone.1, hnone.2]
  exact ⟨List.append_nil ds, rfl⟩

theorem takeFraction_spelled {cs ds rest : List Char} (h : takeFraction cs = (ds, rest)) :
    (∃ fraction, FractionSpelled ds fraction ∧ cs = fraction ++ rest) ∨
      ds = [] ∧ cs = '.' :: rest := by
  unfold takeFraction at h
  split at h <;> cases h
  · next more =>
    by_cases hnone : more.takeWhile Char.isDigit = []
    · refine .inr ⟨hnone, ?_⟩
      have hsplit := more.takeWhile_append_dropWhile (p := Char.isDigit)
      rw [hnone, List.nil_append] at hsplit
      rw [hsplit]
    · have hds : IsDigits (more.takeWhile Char.isDigit) := ⟨hnone, fun d => List.mem_takeWhile_imp⟩
      exact .inl ⟨_, .present hds, by rw [List.cons_append, List.takeWhile_append_dropWhile]⟩
  · exact .inl ⟨[], .absent, rfl⟩

theorem FractionSpelled.takeFraction_append {ds fraction rest : List Char}
    (h : FractionSpelled ds fraction)
    (hrest : ∀ c, rest.head? = some c → c.isDigit = false ∧ c ≠ '.') :
    takeFraction (fraction ++ rest) = (ds, rest) := by
  cases h with
  | absent =>
    unfold takeFraction
    split
    · next heq => exact absurd rfl (hrest '.' (by rw [← List.nil_append rest, heq]; rfl)).2
    · rfl
  | present hds =>
    obtain ⟨htake, hdrop⟩ := takeWhile_isDigit_append hds.2 fun c hc => (hrest c hc).1
    simp only [List.cons_append, takeFraction, htake, hdrop]

theorem FractionSpelled.head?_append_not_isDigit {ds fraction rest : List Char}
    (h : FractionSpelled ds fraction)
    (hrest : ∀ c, rest.head? = some c → c.isDigit = false ∧ c ≠ '.') {c : Char}
    (hc : (fraction ++ rest).head? = some c) : c.isDigit = false := by
  cases h with
  | absent => exact (hrest c hc).1
  | present => cases hc; decide

theorem decimalText?_eq_some {negative : Bool} {cs : List Char} {t : DecimalText}
    (h : decimalText? negative cs = some t) :
    t.negative = negative ∧ t.whole = cs.takeWhile Char.isDigit ∧
      ∃ rest, takeFraction (cs.dropWhile Char.isDigit) = (t.fraction, rest) ∧
        ExponentSpelled t.exponentNegative t.exponent rest := by
  unfold decimalText? at h
  rcases hfraction : takeFraction (cs.dropWhile Char.isDigit) with ⟨fraction, rest⟩
  rw [hfraction] at h
  dsimp only at h
  split at h
  · cases h
  · obtain ⟨⟨exponentNegative, ds⟩, hexponent, rfl⟩ := Option.map_eq_some_iff.mp h
    exact ⟨rfl, rfl, rest, rfl, exponentSpelled_of_exponent? hexponent⟩

theorem decimalText?_append {t : DecimalText} {fraction exponent : List Char}
    (hwhole : IsDigits t.whole) (hfraction : FractionSpelled t.fraction fraction)
    (hexponent : ExponentSpelled t.exponentNegative t.exponent exponent) :
    decimalText? t.negative (t.whole ++ (fraction ++ exponent)) = some t := by
  have hhead := fun c hc => hexponent.head?_not_isDigit (c := c) hc
  obtain ⟨htake, hdrop⟩ := takeWhile_isDigit_append hwhole.2 fun c hc =>
    hfraction.head?_append_not_isDigit hhead hc
  have hne : t.whole.isEmpty = false := by simpa using hwhole.1
  simp only [decimalText?, htake, hdrop, hfraction.takeFraction_append hhead,
    hexponent.exponent?_eq, hne, Bool.false_and, Bool.false_eq_true, if_false, Option.map_some]

theorem unsignedSpelled_of_unsignedText? {negative : Bool} {cs : List Char} {t : DecimalText}
    (h : unsignedText? negative cs = some t) : t.negative = negative ∧ UnsignedSpelled t cs := by
  match cs with
  | [] => cases h
  | first :: more =>
    rw [unsignedText?] at h
    split at h
    · cases h
    next hfirst =>
    split at h
    · cases h
    next hzero =>
    split at h
    · cases h
    next s hdecimal =>
    split at h
    · cases h
    next hpoint =>
    cases h
    have hfirst : first.isDigit = true := by simpa using hfirst
    obtain ⟨hnegative, hwhole, rest, hfraction, hexponent⟩ := decimalText?_eq_some hdecimal
    have hsplit : first :: more = t.whole ++ (first :: more).dropWhile Char.isDigit := by
      rw [hwhole, List.takeWhile_append_dropWhile]
    rw [List.takeWhile_cons_of_pos hfirst] at hwhole
    have hdigits : IsDigits t.whole := by
      rw [hwhole, ← List.takeWhile_cons_of_pos (p := Char.isDigit) hfirst]
      exact ⟨by simp [hfirst], fun d => List.mem_takeWhile_imp⟩
    have hlead : t.whole.head? = some '0' → t.whole = ['0'] := by
      rw [hwhole]
      intro hhead
      cases hhead
      cases more with
      | nil => rfl
      | cons second more =>
        have hsecond : second.isDigit = false := by simpa using hzero
        simp [hsecond]
    refine ⟨hnegative, ?_⟩
    rcases takeFraction_spelled hfraction with ⟨fraction, hspelled, hrest⟩ | ⟨hnone, hrest⟩
    · rw [hsplit, hrest]
      exact .intro hdigits hlead hspelled hexponent
    · rw [hsplit, hnone, hrest] at hpoint
      simp at hpoint

theorem ExponentSpelled.not_mem_point {cs ds : List Char} {negative : Bool}
    (h : ExponentSpelled negative ds cs) : '.' ∉ cs := by
  cases h with
  | absent => exact List.not_mem_nil
  | present hmark hsign hds =>
    have hdigits : '.' ∉ ds := fun hmem => absurd (hds.2 '.' hmem) (by decide)
    rcases hmark with rfl | rfl <;> cases hsign <;> simp [hdigits]

theorem UnsignedSpelled.unsignedText?_eq {cs : List Char} {t : DecimalText}
    (h : UnsignedSpelled t cs) : unsignedText? t.negative cs = some t := by
  obtain ⟨hwhole, hlead, hfraction, hexponent⟩ := h
  next fraction exponent =>
  have hdecimal := decimalText?_append hwhole hfraction hexponent
  have hpoint : t.fraction = [] → '.' ∉ t.whole ++ (fraction ++ exponent) := by
    intro hnone
    have hwholePoint : '.' ∉ t.whole := fun hmem => absurd (hwhole.2 '.' hmem) (by decide)
    rw [hnone] at hfraction
    cases hfraction with
    | absent => simp [hwholePoint, hexponent.not_mem_point]
    | present hds => exact absurd rfl hds.1
  obtain ⟨hne, hall⟩ := hwhole
  cases hcs : t.whole with
  | nil => exact absurd hcs hne
  | cons first more =>
    have hfirst : first.isDigit = true := hall first (hcs ▸ List.mem_cons_self)
    have hzero : (first == '0' && (more ++ (fraction ++ exponent)).head?.any Char.isDigit) =
        false := by
      by_cases hone : first = '0'
      · have hmore : more = [] := by simpa [hcs, hone] using hlead
        have hhead : (fraction ++ exponent).head?.any Char.isDigit = false := by
          rw [Option.any_eq_false]
          intro c hc
          simpa using hfraction.head?_append_not_isDigit
            (fun c hc => hexponent.head?_not_isDigit hc) hc
        rw [hmore, List.nil_append, hhead, Bool.and_false]
      · simp [hone]
    rw [hcs] at hdecimal hpoint
    simp only [List.cons_append] at hdecimal hpoint
    simp only [List.cons_append, unsignedText?, hfirst, hzero, hdecimal, Bool.not_true,
      Bool.false_eq_true, if_false]
    by_cases hnone : t.fraction = []
    · simp [hnone, hpoint hnone]
    · simp [hnone]

theorem numberText?_eq_some_iff {cs : List Char} {t : DecimalText} :
    numberText? cs = some t ↔ NumberSpelled t cs := by
  constructor
  · intro h
    unfold numberText? at h
    split at h
    · obtain ⟨hnegative, hspelled⟩ := unsignedSpelled_of_unsignedText? h
      exact .negative hnegative hspelled
    · obtain ⟨hnegative, hspelled⟩ := unsignedSpelled_of_unsignedText? h
      exact .positive hnegative hspelled
  · intro h
    cases h with
    | negative hnegative hspelled =>
      rw [numberText?, ← hnegative, hspelled.unsignedText?_eq]
    | positive hnegative hspelled =>
      have hbody := hspelled.unsignedText?_eq
      unfold numberText?
      split
      · rw [unsignedText?] at hbody
        simp at hbody
      · rw [← hnegative, hbody]

theorem isNumberChar_of_isDigit {c : Char} (h : c.isDigit = true) : isNumberChar c = true := by
  simp [isNumberChar, h]

theorem FractionSpelled.all_isNumberChar {cs ds : List Char} (h : FractionSpelled ds cs) :
    ∀ c ∈ cs, isNumberChar c = true := by
  cases h with
  | absent => exact List.forall_mem_nil _
  | present hds =>
    exact List.forall_mem_cons.mpr ⟨by decide, fun c hc => isNumberChar_of_isDigit (hds.2 c hc)⟩

theorem ExponentSpelled.all_isNumberChar {cs ds : List Char} {negative : Bool}
    (h : ExponentSpelled negative ds cs) : ∀ c ∈ cs, isNumberChar c = true := by
  cases h with
  | absent => exact List.forall_mem_nil _
  | present hmark hsign hds =>
    have hdigits := fun c hc => isNumberChar_of_isDigit (hds.2 c hc)
    rcases hmark with rfl | rfl <;> cases hsign <;>
      simpa [isNumberChar] using hdigits

theorem UnsignedSpelled.all_isNumberChar {cs : List Char} {t : DecimalText} (h : UnsignedSpelled t cs) :
    ∀ c ∈ cs, isNumberChar c = true := by
  obtain ⟨hwhole, -, hfraction, hexponent⟩ := h
  intro c hc
  rcases List.mem_append.mp hc with hc | hc
  · exact isNumberChar_of_isDigit (hwhole.2 c hc)
  rcases List.mem_append.mp hc with hc | hc
  · exact hfraction.all_isNumberChar c hc
  · exact hexponent.all_isNumberChar c hc

theorem NumberSpelled.all_isNumberChar {cs : List Char} {t : DecimalText} (h : NumberSpelled t cs) :
    ∀ c ∈ cs, isNumberChar c = true := by
  cases h with
  | positive _ hspelled => exact hspelled.all_isNumberChar
  | negative _ hspelled => exact List.forall_mem_cons.mpr ⟨by decide, hspelled.all_isNumberChar⟩

theorem NumberSpelled.exists_eq_cons {cs : List Char} {t : DecimalText} (h : NumberSpelled t cs) :
    ∃ c rest, cs = c :: rest ∧ (c.isDigit || c == '-') = true := by
  cases h with
  | negative => exact ⟨'-', _, rfl, by decide⟩
  | positive _ hspelled =>
    obtain ⟨⟨hne, hall⟩, -, -, -⟩ := hspelled
    obtain ⟨c, rest, hcs⟩ := List.exists_cons_of_ne_nil hne
    exact ⟨c, _, by rw [hcs, List.cons_append], by simp [hall c (hcs ▸ List.mem_cons_self)]⟩

end ChatAssistant.Json
