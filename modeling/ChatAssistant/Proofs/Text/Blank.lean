import ChatAssistant.Text.Blank
import Mathlib.Data.List.DropRight

/-!
# Texts that are not blank

One character that is no blank is enough, and a text that ends in such a character keeps its end.
-/

namespace ChatAssistant.Text

/-- Something in the text is no blank. -/
def Visible (cs : List Char) : Prop := ∃ c ∈ cs, isBlank c = false

theorem isBlankText_eq_false_iff {s : String} : isBlankText s = false ↔ Visible s.toList := by
  simp only [isBlankText, List.all_eq_false, Visible, Bool.not_eq_true]

theorem visible_cons {c : Char} (h : isBlank c = false) (cs : List Char) : Visible (c :: cs) :=
  ⟨c, List.mem_cons_self, h⟩

theorem Visible.append_left {cs ds : List Char} (h : Visible ds) : Visible (cs ++ ds) := by
  obtain ⟨c, hc, hblank⟩ := h
  exact ⟨c, List.mem_append_right _ hc, hblank⟩

theorem Visible.append_right {cs ds : List Char} (h : Visible cs) : Visible (cs ++ ds) := by
  obtain ⟨c, hc, hblank⟩ := h
  exact ⟨c, List.mem_append_left _ hc, hblank⟩

theorem isBlank_of_isDigit {c : Char} (h : c.isDigit = true) : isBlank c = false := by
  simp only [Char.isDigit, Bool.and_eq_true, decide_eq_true_eq] at h
  have hlow : 48 ≤ c.toNat := h.1
  have hhigh : c.toNat ≤ 57 := h.2
  simp only [isBlank, Bool.or_eq_false_iff, Bool.and_eq_false_iff, decide_eq_false_iff_not,
    beq_eq_false_iff_ne]
  omega

/-! ## The end of a text -/

theorem dropEndBlanks_append_blank {c : Char} (h : isBlank c = true) (cs : List Char) :
    dropEndBlanks (cs ++ [c]) = dropEndBlanks cs := by
  simp [dropEndBlanks, h]

theorem dropEndBlanks_append {ds : List Char} (h : ds.getLast?.any (!isBlank ·) = true)
    (cs : List Char) : dropEndBlanks (cs ++ ds) = cs ++ ds := by
  rw [← List.head?_reverse] at h
  rw [dropEndBlanks, List.reverse_eq_iff, List.reverse_append]
  cases hds : ds.reverse with
  | nil =>
    rw [hds] at h
    cases h
  | cons last before =>
    rw [hds, List.head?_cons, Option.any_some, Bool.not_eq_true'] at h
    exact List.dropWhile_cons_of_neg (by simp [h])

/-! ## Trimming -/

theorem dropWhile_isBlank_eq_self {cs : List Char} (h : ∀ c ∈ cs, isBlank c = false) : cs.dropWhile isBlank = cs := by
  cases cs with
  | nil => rfl
  | cons c cs => exact List.dropWhile_cons_of_neg (by simp [h c List.mem_cons_self])

theorem trim_of_unbroken {s : String} (h : ∀ c ∈ s.toList, isBlank c = false) : trim s = s := by
  have hend : dropEndBlanks s.toList = s.toList := by
    rw [dropEndBlanks, dropWhile_isBlank_eq_self fun c hc => h c (List.mem_reverse.mp hc), List.reverse_reverse]
  rw [trim, trimChars, dropWhile_isBlank_eq_self h, hend, String.ofList_toList]

theorem isEmpty_trim (s : String) : (trim s).isEmpty = isBlankText (trim s) := by
  rw [Bool.eq_iff_iff]
  refine ⟨fun hempty => ?_, isEmpty_trim_of_isBlankText⟩
  rw [String.isEmpty_iff.mp hempty]
  rfl

-- What is left does not start with a blank, and ends where it did.
theorem trim_trim (s : String) : trim (trim s) = trim s := by
  have hprefix : dropEndBlanks (s.toList.dropWhile isBlank) <+: s.toList.dropWhile isBlank :=
    List.rdropWhile_prefix isBlank _
  have hstart : (dropEndBlanks (s.toList.dropWhile isBlank)).dropWhile isBlank =
      dropEndBlanks (s.toList.dropWhile isBlank) := by
    obtain ⟨more, hmore⟩ := hprefix
    cases hleft : dropEndBlanks (s.toList.dropWhile isBlank) with
    | nil => rfl
    | cons c rest =>
      rw [hleft] at hmore
      have hne : s.toList.dropWhile isBlank ≠ [] := by
        rw [← hmore]
        exact List.cons_ne_nil _ _
      have hhead := List.head_dropWhile_not isBlank hne
      simp only [← hmore, List.cons_append, List.head_cons] at hhead
      exact List.dropWhile_cons_of_neg (by simp [hhead])
  have hend : dropEndBlanks (dropEndBlanks (s.toList.dropWhile isBlank)) =
      dropEndBlanks (s.toList.dropWhile isBlank) := List.rdropWhile_idempotent isBlank _
  rw [trim, trim, String.toList_ofList, trimChars, trimChars, hstart, hend]

end ChatAssistant.Text
