import ChatAssistant.Proofs.Terminal.Wrapping
import Mathlib.Data.List.TakeWhile

/-!
# Lines that fit

A line that fits into a row is put together again from its words.  All its spaces come back but those at its
start, since behind an empty row no space is put.
-/

namespace ChatAssistant.Terminal

open ChatAssistant.Text

variable {width : Nat} {row : List Char}

/-! ## Words put together again -/

theorem length_le_foldl_joinWord (row : List Char) (words : List (List Char)) :
    row.length ≤ (words.foldl joinWord row).length := by
  induction words generalizing row with
  | nil => exact Nat.le_refl _
  | cons word rest ih =>
    have hjoin := length_add_le_joinWord row word
    have hrest := ih (joinWord row word)
    rw [List.foldl_cons]
    omega

-- Words that fit into one row all stay in it.
theorem wrapWords_of_foldl_le {words : List (List Char)} (h : (words.foldl joinWord row).length ≤ width) :
    wrapWords width row words = [words.foldl joinWord row] := by
  induction words generalizing row with
  | nil => rfl
  | cons word rest ih =>
    rw [List.foldl_cons] at h ⊢
    rw [wrapWords_of_le (Nat.le_trans (length_le_foldl_joinWord _ rest) h), ih h]

theorem intercalate_append_cons (row word : List Char) (words : List (List Char)) :
    [' '].intercalate ((row ++ word) :: words) = row ++ [' '].intercalate (word :: words) := by
  cases words with
  | nil => simp
  | cons next words => simp [List.intercalate_cons_cons]

theorem foldl_joinWord (hrow : row ≠ []) (words : List (List Char)) :
    words.foldl joinWord row = [' '].intercalate (row :: words) := by
  induction words generalizing row with
  | nil => exact List.intercalate_singleton.symm
  | cons word rest ih =>
    have hjoin : joinWord row word = row ++ [' '] ++ word := by simp [joinWord, hrow]
    rw [List.foldl_cons, hjoin, ih (by simp), intercalate_append_cons, List.intercalate_cons_cons]

/-- The words of a line, put together again, are the line without the spaces at its start: behind an empty row
no space is put. -/
theorem foldl_joinWord_splitOn (line : List Char) :
    (line.splitOn ' ').foldl joinWord [] = line.dropWhile (· == ' ') := by
  induction line with
  | nil => rfl
  | cons c rest ih =>
    by_cases hc : c = ' '
    · subst hc
      rw [splitOn_cons_self, List.foldl_cons]
      exact ih
    · obtain ⟨first, more, hrest⟩ := List.exists_cons_of_ne_nil (List.splitOn_ne_nil ' ' rest)
      rw [splitOn_cons_of_ne hc, hrest, List.modifyHead_cons, List.foldl_cons]
      have hline : [' '].intercalate ((c :: first) :: more) = c :: rest := by
        have hback : [' '].intercalate (rest.splitOn ' ') = rest := List.intercalate_splitOn ' '
        rw [← hback, hrest]
        exact intercalate_append_cons [c] first more
      rw [List.dropWhile_cons_of_neg (by simpa using hc), ← hline]
      exact foldl_joinWord (List.cons_ne_nil _ _) more

/-! ## One row -/

/-- A line without the spaces at its start stands in one row where it has room in one. -/
theorem wrap_of_length_le {line : List Char} (h : (line.dropWhile (· == ' ')).length ≤ width) :
    wrap width line = [line.dropWhile (· == ' ')] := by
  rw [← foldl_joinWord_splitOn] at h ⊢
  rw [wrap, split_eq_splitOn, wrapWords_of_foldl_le h]

theorem wrap_eq_self_iff {line : List Char} (h : line.length ≤ width) :
    wrap width line = [line] ↔ line.head? ≠ some ' ' := by
  rw [wrap_of_length_le (Nat.le_trans (List.dropWhile_suffix _).length_le h), List.singleton_inj]
  cases line with
  | nil => simp
  | cons c rest => simp [List.dropWhile_eq_self_iff]

theorem box_of_length_le {isShown : Bool} {columns : Nat} {reply : String}
    (h : ∀ line ∈ lines reply, line.length ≤ innerWidth columns) :
    box isShown columns reply =
      edge isShown columns '┌' '┐' ::
        (lines reply).map (fun line => boxRow isShown columns (line.dropWhile (· == ' '))) ++
        [edge isShown columns '└' '┘'] := by
  have hrows : (lines reply).flatMap (wrap (innerWidth columns)) =
      (lines reply).map (List.dropWhile (· == ' ')) := by
    rw [List.map_eq_flatMap]
    refine List.flatMap_congr fun line hline => ?_
    exact wrap_of_length_le (Nat.le_trans (List.dropWhile_suffix _).length_le (h line hline))
  rw [box, hrows, List.map_map]
  rfl

/-- A line that fits stands in one row and keeps all its characters but the spaces at its start: it is shown as it
is exactly where it does not start with a space.  So the lines of a reply lose their indentation in the box, and
nothing else where they fit. -/
theorem fitting_line_loses_indent_only {width : Nat} {line : List Char} (h : line.length ≤ width) :
    wrap width line = [line.dropWhile (· == ' ')] ∧
      (wrap width line = [line] ↔ line.head? ≠ some ' ') ∧
      ∀ (isShown : Bool) (columns : Nat) (reply : String),
        (∀ line ∈ lines reply, line.length ≤ innerWidth columns) →
          box isShown columns reply =
            edge isShown columns '┌' '┐' ::
              (lines reply).map (fun line => boxRow isShown columns (line.dropWhile (· == ' '))) ++
              [edge isShown columns '└' '┘'] :=
  ⟨wrap_of_length_le (Nat.le_trans (List.dropWhile_suffix _).length_le h), wrap_eq_self_iff h,
    fun _ _ _ => box_of_length_le⟩

theorem fitting_line_loses_indent_only_code :
    "  if x:  y ".toList.length ≤ 72 ∧ wrap 72 "  if x:  y ".toList = ["if x:  y ".toList] ∧
      wrap 72 "  if x:  y ".toList ≠ ["  if x:  y ".toList] := by
  have hfits : "  if x:  y ".toList.length ≤ 72 := by decide
  obtain ⟨hrow, hself, -⟩ := fitting_line_loses_indent_only hfits
  exact ⟨hfits, hrow, fun h => hself.mp h rfl⟩

/-- A line that fits may lose characters. -/
theorem indented_line_changes :
    ¬ ∀ (width : Nat) (line : List Char), 1 ≤ width → line.length ≤ width → wrap width line = [line] := by
  intro h
  have hkept := h 72 "    return x".toList (by decide) (by decide)
  exact absurd hkept (by decide +kernel)

end ChatAssistant.Terminal
