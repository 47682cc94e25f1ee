import ChatAssistant.Text.Split

/-!
# Words between spaces

The words of a line are what stands between its spaces.  Two lines with a space between them have the words
of both.
-/

namespace ChatAssistant.Text

theorem splitOn_cons_self (separator : Char) (cs : List Char) :
    (separator :: cs).splitOn separator = [] :: cs.splitOn separator := by
  simp only [List.splitOn_eq_splitOnP, List.splitOnP_cons_eq_if_modifyHead, beq_self_eq_true, if_true]

theorem splitOn_cons_of_ne {separator c : Char} (h : c ≠ separator) (cs : List Char) :
    (c :: cs).splitOn separator = (cs.splitOn separator).modifyHead (List.cons c) := by
  simp only [List.splitOn_eq_splitOnP, List.splitOnP_cons_eq_if_modifyHead, beq_eq_false_iff_ne.mpr h,
    Bool.false_eq_true, if_false]

theorem splitFrom_eq (separator : Char) (piece cs : List Char) :
    splitFrom separator piece cs = (cs.splitOn separator).modifyHead (piece.reverse ++ ·) := by
  induction cs generalizing piece with
  | nil => simp [splitFrom]
  | cons c rest ih =>
    rw [splitFrom]
    obtain ⟨first, more, hrest⟩ := List.exists_cons_of_ne_nil (List.splitOn_ne_nil separator rest)
    by_cases hc : c = separator
    · subst hc
      simp [splitOn_cons_self, ih, hrest]
    · simp [splitOn_cons_of_ne hc, ih, hc, hrest]

theorem split_eq_splitOn (separator : Char) (cs : List Char) :
    split separator cs = cs.splitOn separator := by
  obtain ⟨first, more, hcs⟩ := List.exists_cons_of_ne_nil (List.splitOn_ne_nil separator cs)
  simp [split, splitFrom_eq, hcs]

theorem splitOn_append_cons (separator : Char) (cs more : List Char) :
    (cs ++ separator :: more).splitOn separator = cs.splitOn separator ++ more.splitOn separator := by
  simp only [List.splitOn_eq_splitOnP]
  exact List.splitOnP_append_cons cs more (beq_self_eq_true separator)

-- No piece holds the character at which the text was split.
theorem not_mem_of_mem_splitOn {separator : Char} {cs piece : List Char}
    (h : piece ∈ cs.splitOn separator) : separator ∉ piece := by
  induction cs generalizing piece with
  | nil => simp_all
  | cons c rest ih =>
    by_cases hc : c = separator
    · subst hc
      rw [splitOn_cons_self] at h
      rcases List.mem_cons.mp h with rfl | h
      · exact List.not_mem_nil
      · exact ih h
    · obtain ⟨first, more, hrest⟩ := List.exists_cons_of_ne_nil (List.splitOn_ne_nil separator rest)
      rw [splitOn_cons_of_ne hc, hrest, List.modifyHead_cons] at h
      rw [hrest] at ih
      rcases List.mem_cons.mp h with rfl | h
      · exact List.not_mem_cons_of_ne_of_not_mem (Ne.symm hc) (ih List.mem_cons_self)
      · exact ih (List.mem_cons_of_mem _ h)

-- Nothing but the separators is lost.
theorem flatten_splitOn (separator : Char) (cs : List Char) :
    (cs.splitOn separator).flatten = cs.filter (· ≠ separator) := by
  induction cs with
  | nil => rfl
  | cons c rest ih =>
    by_cases hc : c = separator
    · subst hc
      simp [splitOn_cons_self, ih]
    · obtain ⟨first, more, hrest⟩ := List.exists_cons_of_ne_nil (List.splitOn_ne_nil separator rest)
      rw [hrest] at ih
      simp_all [splitOn_cons_of_ne hc]

/-! ## Words -/

/-- The words between the spaces of a line. -/
def spacedWords (line : List Char) : List (List Char) := (line.splitOn ' ').filter (· ≠ [])

theorem spacedWords_nil : spacedWords [] = [] := rfl

theorem spacedWords_append (line more : List Char) :
    spacedWords (line ++ ' ' :: more) = spacedWords line ++ spacedWords more := by
  simp only [spacedWords, splitOn_append_cons, List.filter_append]

theorem spacedWords_of_not_mem {word : List Char} (h : ' ' ∉ word) (hword : word ≠ []) :
    spacedWords word = [word] := by
  simp [spacedWords, List.splitOn_eq_singleton h, hword]

theorem mem_spacedWords {line word : List Char} (h : word ∈ spacedWords line) :
    word ≠ [] ∧ ' ' ∉ word := by
  obtain ⟨hmem, hword⟩ := List.mem_filter.mp h
  exact ⟨of_decide_eq_true hword, not_mem_of_mem_splitOn hmem⟩

/-- The words hold every character of the line but its spaces. -/
theorem flatten_spacedWords (line : List Char) : (spacedWords line).flatten = line.filter (· ≠ ' ') := by
  rw [spacedWords, List.flatten_filter_ne_nil, flatten_splitOn]

end ChatAssistant.Text
