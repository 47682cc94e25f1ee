import ChatAssistant.Proofs.Text.Words
import ChatAssistant.Terminal.Box
import Mathlib.Data.List.Forall2

/-!
# Wrapped lines

A line that is wrapped keeps its words in their order.  A word is cut only where no row has room for it, and a
row ends only where the next word finds no room in it.
-/

namespace ChatAssistant.Terminal

open ChatAssistant.Text

variable {width : Nat} {row word : List Char}

/-! ## Words in parts -/

/-- The parts of a word: the word itself where it fits into a row, and otherwise a full row and the parts of
what is left. -/
inductive IsCut (width : Nat) : List Char → List (List Char) → Prop
  | whole {word : List Char} : word ≠ [] → word.length ≤ width → IsCut width word [word]
  | cut {front rest : List Char} {parts : List (List Char)} : front.length = width → rest ≠ [] →
      IsCut width rest parts → IsCut width (front ++ rest) (front :: parts)

namespace IsCut

variable {parts : List (List Char)}

-- A word that fits is not cut.
theorem eq_singleton (h : IsCut width word parts) (hfits : word.length ≤ width) : parts = [word] := by
  cases h with
  | whole => rfl
  | cut hfront hrest _ =>
    have hpos := List.length_pos_iff.mpr hrest
    rw [List.length_append] at hfits
    omega

theorem flatten (h : IsCut width word parts) : parts.flatten = word := by
  induction h with
  | whole => exact List.flatten_singleton
  | cut _ _ _ ih => rw [List.flatten_cons, ih]

theorem of_mem (hwidth : 0 < width) (h : IsCut width word parts) {part : List Char} (hpart : part ∈ parts) :
    part ≠ [] ∧ part.length ≤ width ∧ part ⊆ word := by
  induction h with
  | whole hword hfits =>
    cases List.mem_singleton.mp hpart
    exact ⟨hword, hfits, List.Subset.refl _⟩
  | @cut front rest parts hfront _ _ ih =>
    rcases List.mem_cons.mp hpart with rfl | hpart
    · exact ⟨List.length_pos_iff.mp (hfront ▸ hwidth), Nat.le_of_eq hfront, List.subset_append_left _ _⟩
    · obtain ⟨hne, hfits, hsub⟩ := ih hpart
      exact ⟨hne, hfits, List.subset_append_of_subset_right _ hsub⟩

end IsCut

theorem cutWord_of_le (h : word.length ≤ width) : cutWord width word = ([], word) := by
  rw [cutWord, dif_neg (by omega)]

-- As long as a width is given, each step takes a full row off a word that does not fit.
theorem cutWord_of_lt (hwidth : 0 < width) (h : width < word.length) :
    cutWord width word =
      (word.take width :: (cutWord width (word.drop width)).1, (cutWord width (word.drop width)).2) := by
  rw [cutWord, dif_pos ⟨hwidth, h⟩]

theorem isCut_cutWord (hwidth : 0 < width) (hword : word ≠ []) :
    IsCut width word ((cutWord width word).1 ++ [(cutWord width word).2]) := by
  induction hlength : word.length using Nat.strongRecOn generalizing word with
  | ind n ih =>
    by_cases hfits : word.length ≤ width
    · rw [cutWord_of_le hfits]
      exact .whole hword hfits
    · have hrest : (word.drop width).length = word.length - width := List.length_drop
      have hne : word.drop width ≠ [] := List.length_pos_iff.mp (by omega)
      have hfull : (word.take width).length = width := by
        rw [List.length_take]
        omega
      have hcut := IsCut.cut hfull hne (ih _ (by omega) hne rfl)
      rw [List.take_append_drop] at hcut
      rw [cutWord_of_lt hwidth (by omega)]
      exact hcut

/-- The parts of a word, of which the empty one has none. -/
def partsOf (width : Nat) (word : List Char) : List (List Char) :=
  if word = [] then [] else (cutWord width word).1 ++ [(cutWord width word).2]

theorem partsOf_nil (width : Nat) : partsOf width [] = [] := rfl

theorem isCut_partsOf (hwidth : 0 < width) (hword : word ≠ []) : IsCut width word (partsOf width word) := by
  rw [partsOf, if_neg hword]
  exact isCut_cutWord hwidth hword

theorem partsOf_of_le (hword : ' ' ∉ word) (h : word.length ≤ width) :
    partsOf width word = spacedWords word := by
  by_cases hempty : word = []
  · subst hempty
    rfl
  · rw [partsOf, if_neg hempty, cutWord_of_le h, spacedWords_of_not_mem hword hempty]
    rfl

theorem length_snd_cutWord_le (hwidth : 0 < width) (word : List Char) :
    (cutWord width word).2.length ≤ width := by
  by_cases hempty : word = []
  · subst hempty
    rw [cutWord_of_le (Nat.zero_le _)]
    exact Nat.zero_le _
  · exact ((isCut_cutWord hwidth hempty).of_mem hwidth (List.mem_append_right _ List.mem_cons_self)).2.1

theorem spacedWords_of_mem_cutWord (hwidth : 0 < width) (hword : ' ' ∉ word) {part : List Char}
    (hpart : part ∈ (cutWord width word).1) : part.length ≤ width ∧ spacedWords part = [part] := by
  by_cases hempty : word = []
  · subst hempty
    rw [cutWord_of_le (Nat.zero_le _)] at hpart
    exact absurd hpart List.not_mem_nil
  · obtain ⟨hne, hfits, hsub⟩ :=
      (isCut_cutWord hwidth hempty).of_mem hwidth (List.mem_append_left _ hpart)
    exact ⟨hfits, spacedWords_of_not_mem (fun hspace => hword (hsub hspace)) hne⟩

-- Full rows are words of their own, and so is what is left of a word.
theorem spacedWords_cutWord (hwidth : 0 < width) (hword : ' ' ∉ word) :
    (cutWord width word).1 ++ spacedWords (cutWord width word).2 = partsOf width word := by
  by_cases hempty : word = []
  · subst hempty
    rw [cutWord_of_le (Nat.zero_le _)]
    rfl
  · obtain ⟨hne, -, hsub⟩ := (isCut_cutWord hwidth hempty).of_mem hwidth
      (List.mem_append_right _ List.mem_cons_self)
    rw [partsOf, if_neg hempty, spacedWords_of_not_mem (fun hspace => hword (hsub hspace)) hne]

theorem flatMap_spacedWords_cutWord (hwidth : 0 < width) (hword : ' ' ∉ word) {rows : List (List Char)}
    (hrows : rows ⊆ (cutWord width word).1) : rows.flatMap spacedWords = rows := by
  induction rows with
  | nil => rfl
  | cons first rows ih =>
    obtain ⟨hfirst, hrows⟩ := List.cons_subset.mp hrows
    rw [List.flatMap_cons, ih hrows, (spacedWords_of_mem_cutWord hwidth hword hfirst).2]
    rfl

/-! ## Rows -/

theorem spacedWords_joinWord (row word : List Char) :
    spacedWords (joinWord row word) = spacedWords row ++ spacedWords word := by
  cases row with
  | nil => rfl
  | cons c row => exact spacedWords_append (c :: row) word

/-- The rows that are done where a word finds no room: an empty row is left out. -/
def finished (row : List Char) : List (List Char) := if row.isEmpty then [] else [row]

theorem flatMap_spacedWords_finished (row : List Char) :
    (finished row).flatMap spacedWords = spacedWords row := by
  cases row with
  | nil => rfl
  | cons c row => exact List.flatMap_singleton _ _

theorem wrapWords_of_le (h : (joinWord row word).length ≤ width) (rest : List (List Char)) :
    wrapWords width row (word :: rest) = wrapWords width (joinWord row word) rest := by
  rw [wrapWords, if_pos h]

theorem wrapWords_of_lt (h : width < (joinWord row word).length) (rest : List (List Char)) :
    wrapWords width row (word :: rest) =
      finished row ++ ((cutWord width word).1 ++ wrapWords width (cutWord width word).2 rest) := by
  rw [wrapWords, if_neg (by omega)]
  exact List.append_assoc _ _ _

theorem length_add_le_joinWord (row word : List Char) :
    row.length + word.length ≤ (joinWord row word).length := by
  unfold joinWord
  split
  · next hempty =>
    rw [List.isEmpty_iff.mp hempty]
    exact Nat.le_of_eq (Nat.zero_add _)
  · rw [List.length_append, List.length_cons]
    omega

theorem length_le_of_joinWord (h : (joinWord row word).length ≤ width) : word.length ≤ width := by
  have hjoin := length_add_le_joinWord row word
  omega

theorem wrapWords_ne_nil (width : Nat) (row : List Char) (words : List (List Char)) :
    wrapWords width row words ≠ [] := by
  induction words generalizing row with
  | nil => exact List.cons_ne_nil _ _
  | cons word rest ih =>
    rcases Nat.lt_or_ge width (joinWord row word).length with h | h
    · rw [wrapWords_of_lt h]
      exact List.append_ne_nil_of_right_ne_nil _ (List.append_ne_nil_of_right_ne_nil _ (ih _))
    · rw [wrapWords_of_le h]
      exact ih _

theorem length_le_of_mem_wrapWords (hwidth : 0 < width) {words : List (List Char)}
    (hwords : ∀ word ∈ words, ' ' ∉ word) (hrow : row.length ≤ width) {other : List Char}
    (h : other ∈ wrapWords width row words) : other.length ≤ width := by
  induction words generalizing row with
  | nil =>
    cases List.mem_singleton.mp h
    exact hrow
  | cons word rest ih =>
    obtain ⟨hword, hrest⟩ := List.forall_mem_cons.mp hwords
    rcases Nat.lt_or_ge width (joinWord row word).length with hfull | hfits
    · rw [wrapWords_of_lt hfull] at h
      rcases List.mem_append.mp h with h | h
      · unfold finished at h
        split at h
        · exact absurd h List.not_mem_nil
        · cases List.mem_singleton.mp h
          exact hrow
      rcases List.mem_append.mp h with h | h
      · exact (spacedWords_of_mem_cutWord hwidth hword h).1
      · exact ih hrest (length_snd_cutWord_le hwidth word) h
    · rw [wrapWords_of_le hfits] at h
      exact ih hrest hfits h

/-- The words of the rows are the words of the row under way and the parts of the words that follow. -/
theorem flatMap_spacedWords_wrapWords (hwidth : 0 < width) {words : List (List Char)}
    (hwords : ∀ word ∈ words, ' ' ∉ word) (row : List Char) :
    (wrapWords width row words).flatMap spacedWords = spacedWords row ++ words.flatMap (partsOf width) := by
  induction words generalizing row with
  | nil => rfl
  | cons word rest ih =>
    obtain ⟨hword, hrest⟩ := List.forall_mem_cons.mp hwords
    rw [List.flatMap_cons]
    rcases Nat.lt_or_ge width (joinWord row word).length with hfull | hfits
    · rw [wrapWords_of_lt hfull, List.flatMap_append, List.flatMap_append, flatMap_spacedWords_finished,
        flatMap_spacedWords_cutWord hwidth hword (List.Subset.refl _), ih hrest,
        ← spacedWords_cutWord hwidth hword, List.append_assoc]
    · rw [wrapWords_of_le hfits, ih hrest, spacedWords_joinWord,
        partsOf_of_le hword (length_le_of_joinWord hfits), List.append_assoc]

/-! ## Full rows -/

theorem append_eq_append_cons {α : Type} {as bs before after : List α} {last : α}
    (h : as ++ bs = before ++ last :: after) :
    (∃ more, as = before ++ last :: more) ∨
      ∃ between, before = as ++ between ∧ bs = between ++ last :: after := by
  rcases List.append_eq_append_iff.mp h with ⟨between, hbefore, hbs⟩ | ⟨more, has, hlast⟩
  · exact .inr ⟨between, hbefore, hbs⟩
  · cases more with
    | nil => exact .inr ⟨[], by simpa using has.symm, hlast.symm⟩
    | cons first more =>
      obtain ⟨rfl, -⟩ := List.cons.inj hlast
      exact .inl ⟨more, has⟩

-- The row under way goes on into the first row, with all its words.
theorem length_spacedWords_le {words before after : List (List Char)} {last : List Char}
    (h : wrapWords width row words = before ++ last :: after) :
    (spacedWords row).length ≤ ((before ++ [last]).flatMap spacedWords).length := by
  induction words generalizing row with
  | nil =>
    rcases List.append_eq_cons_iff.mp h.symm with ⟨rfl, hlast⟩ | ⟨more, -, hmore⟩
    · cases hlast
      exact Nat.le_of_eq (by simp)
    · simp at hmore
  | cons word rest ih =>
    rcases Nat.lt_or_ge width (joinWord row word).length with hfull | hfits
    · rw [wrapWords_of_lt hfull] at h
      cases row with
      | nil => exact Nat.zero_le _
      | cons c row =>
        rcases List.append_eq_cons_iff.mp h.symm with ⟨rfl, hlast⟩ | ⟨more, rfl, -⟩
        · cases hlast
          exact Nat.le_of_eq (by simp)
        · simp
    · rw [wrapWords_of_le hfits] at h
      have hrow := ih h
      rw [spacedWords_joinWord, List.length_append] at hrow
      omega

theorem length_joinWord_le (row word : List Char) :
    (joinWord row word).length ≤ row.length + 1 + word.length := by
  unfold joinWord
  split
  · omega
  · rw [List.length_append, List.length_cons]
    omega

theorem length_partsOf (hword : word ≠ []) :
    (partsOf width word).length = (cutWord width word).1.length + 1 := by
  rw [partsOf, if_neg hword, List.length_append, List.length_singleton]

theorem finished_eq_append_cons {before after : List (List Char)} {last : List Char}
    (h : finished row = before ++ last :: after) : before = [] ∧ last = row := by
  unfold finished at h
  split at h
  · simp at h
  · rcases List.append_eq_cons_iff.mp h.symm with ⟨rfl, hlast⟩ | ⟨more, -, hmore⟩
    · cases hlast
      exact ⟨rfl, rfl⟩
    · simp at hmore

section

variable {first last : List Char} {front back before after : List (List Char)}

-- The rows that a word ends when it does not fit: the row under way, and the full rows that are cut out of the
-- word.  Only the first can end between two words (the counts of parts refute the others), and behind it there
-- was no room for the next word.
theorem lt_of_break_finished (hwidth : 0 < width) (hfirst : ' ' ∉ first)
    (hfull : width < (joinWord row first).length)
    (hfront : (front = [] ∧ word = first) ∨ ∃ others, front = first :: others)
    (hrows : finished row ++ (cutWord width first).1 = before ++ last :: after)
    (hparts : (before.flatMap spacedWords).length + (spacedWords last).length =
      (spacedWords row).length + (front.flatMap (partsOf width)).length) :
    width < last.length + 1 + word.length := by
  have hlength : first ≠ [] → (partsOf width first).length = (cutWord width first).1.length + 1 := length_partsOf
  rcases append_eq_append_cons hrows with ⟨more, hlast⟩ | ⟨between, rfl, hlast⟩
  · -- Before the word there is at most an empty one.
    obtain ⟨rfl, rfl⟩ := finished_eq_append_cons hlast
    have hshort : first.length ≤ word.length := by
      rcases hfront with ⟨-, rfl⟩ | ⟨others, rfl⟩
      · exact Nat.le_refl _
      · have hempty : first = [] := by
          by_contra hne
          have hpos := hlength hne
          rw [List.flatMap_nil, List.length_nil, List.flatMap_cons, List.length_append] at hparts
          omega
        rw [hempty]
        exact Nat.zero_le _
    have hjoin := length_joinWord_le last first
    omega
  · -- The rest of the first word comes next.
    have hne : first ≠ [] := by
      rintro rfl
      rw [cutWord_of_le (Nat.zero_le _)] at hlast
      simp at hlast
    have hmem : last ∈ (cutWord width first).1 := by simp [hlast]
    have hone := (spacedWords_of_mem_cutWord hwidth hfirst hmem).2
    rw [List.flatMap_append, flatMap_spacedWords_finished, List.length_append,
      flatMap_spacedWords_cutWord hwidth hfirst (hlast ▸ List.subset_append_left _ _), hone,
      List.length_singleton] at hparts
    have hmore := hlength hne
    rw [hlast, List.length_append, List.length_cons] at hmore
    rcases hfront with ⟨rfl, -⟩ | ⟨others, rfl⟩
    · rw [List.flatMap_nil, List.length_nil] at hparts
      omega
    · rw [List.flatMap_cons, List.length_append] at hparts
      omega

/-- A row that ends before a word has no room for it.  The row is known by how many parts the rows up to it
hold. -/
theorem lt_of_break (hwidth : 0 < width) {words : List (List Char)} (hwords : ∀ word ∈ words, ' ' ∉ word)
    (hsplit : words = front ++ word :: back) (hword : word ≠ [])
    (hrows : wrapWords width row words = before ++ last :: after)
    (hparts : (before.flatMap spacedWords).length + (spacedWords last).length =
      (spacedWords row).length + (front.flatMap (partsOf width)).length) :
    width < last.length + 1 + word.length := by
  induction words generalizing row front before with
  | nil => simp at hsplit
  | cons first rest ih =>
    obtain ⟨hfirst, hrest⟩ := List.forall_mem_cons.mp hwords
    -- The word itself comes next, or it comes behind the first one.
    have hfront : (front = [] ∧ word = first) ∨
        ∃ others, front = first :: others ∧ rest = others ++ word :: back := by
      rcases List.append_eq_cons_iff.mp hsplit.symm with ⟨hfront, hhead⟩ | ⟨others, hfront, hothers⟩
      · exact .inl ⟨hfront, (List.cons.inj hhead).1⟩
      · exact .inr ⟨others, hfront, hothers⟩
    -- The rows that are done and the row under way hold the parts of the first word.
    have hlater : ∀ {start : List Char} {later : List (List Char)} {done : Nat},
        wrapWords width start rest = later ++ last :: after →
        (before.flatMap spacedWords).length = done + (later.flatMap spacedWords).length →
        done + (spacedWords start).length = (spacedWords row).length + (partsOf width first).length →
          width < last.length + 1 + word.length := by
      intro start later done hstart hbefore hdone
      rcases hfront with ⟨rfl, rfl⟩ | ⟨others, rfl, hothers⟩
      · have hle := length_spacedWords_le hstart
        have hlength : (partsOf width word).length = _ := length_partsOf hword
        rw [List.flatMap_append, List.flatMap_singleton, List.length_append] at hle
        rw [List.flatMap_nil, List.length_nil] at hparts
        omega
      · refine ih hrest hothers hstart ?_
        rw [List.flatMap_cons, List.length_append] at hparts
        omega
    rcases Nat.lt_or_ge width (joinWord row first).length with hfull | hfits
    · rw [wrapWords_of_lt hfull, ← List.append_assoc] at hrows
      rcases append_eq_append_cons hrows with ⟨more, hlast⟩ | ⟨later, rfl, hlast⟩
      · exact lt_of_break_finished hwidth hfirst hfull (hfront.imp_right fun ⟨others, h, _⟩ => ⟨others, h⟩)
          hlast hparts
      · refine hlater hlast (List.flatMap_append ▸ List.length_append) ?_
        rw [List.flatMap_append, flatMap_spacedWords_finished,
          flatMap_spacedWords_cutWord hwidth hfirst (List.Subset.refl _), ← spacedWords_cutWord hwidth hfirst,
          List.length_append, List.length_append, Nat.add_assoc]
    · rw [wrapWords_of_le hfits] at hrows
      refine hlater hrows (Nat.zero_add _).symm ?_
      rw [spacedWords_joinWord, List.length_append, Nat.zero_add,
        partsOf_of_le hfirst (length_le_of_joinWord hfits)]

end

/-! ## What a wrapped line is -/

/-- A row that ends between two words has no room for the second one: with a space and the whole word it would
be too long.  The row ends between two words where the rows up to it hold the parts of the words before the
second one, and nothing else. -/
def BreaksLate (width : Nat) (words : List (List Char)) (parts : List (List (List Char)))
    (rows : List (List Char)) : Prop :=
  ∀ (before after : List (List Char)) (row : List Char) (n : Nat) (word : List Char),
    rows = before ++ row :: after → (before ++ [row]).flatMap spacedWords = (parts.take n).flatten →
      words[n]? = some word → width < row.length + 1 + word.length

/-- The rows of a line: none is too long, and they hold the words of the line in their order, those that fit
as they are and the others in parts.  No character but spaces is lost or put in. -/
structure IsWrapping (width : Nat) (line : List Char) (rows : List (List Char)) : Prop where
  ne_nil : rows ≠ []
  fits : ∀ row ∈ rows, row.length ≤ width
  words : ∃ parts, List.Forall₂ (IsCut width) (spacedWords line) parts ∧
    rows.flatMap spacedWords = parts.flatten ∧ BreaksLate width (spacedWords line) parts rows
  whole : ∀ word ∈ spacedWords line, word.length ≤ width → ∃ row ∈ rows, word ∈ spacedWords row
  chars : rows.flatten.filter (· ≠ ' ') = line.filter (· ≠ ' ')

theorem flatMap_partsOf_filter (width : Nat) (words : List (List Char)) :
    (words.filter (· ≠ [])).flatMap (partsOf width) = words.flatMap (partsOf width) := by
  induction words with
  | nil => rfl
  | cons word rest ih =>
    by_cases hempty : word = []
    · subst hempty
      rw [List.filter_cons_of_neg (by simp), List.flatMap_cons, partsOf_nil, List.nil_append, ih]
    · rw [List.filter_cons_of_pos (by simpa using hempty), List.flatMap_cons, List.flatMap_cons, ih]

theorem exists_of_getElem?_filter {α : Type} {p : α → Bool} {as : List α} {n : Nat} {a : α}
    (h : (as.filter p)[n]? = some a) :
    ∃ front back, as = front ++ a :: back ∧ front.filter p = (as.filter p).take n := by
  obtain ⟨hlt, ha⟩ := List.getElem?_eq_some_iff.mp h
  have hsplit := (List.take_append_drop n (as.filter p)).symm
  rw [List.drop_eq_getElem_cons hlt, ha] at hsplit
  obtain ⟨front, behind, has, hfront, hbehind⟩ := List.filter_eq_append_iff.mp hsplit
  obtain ⟨skipped, back, hback, hskipped, -, -⟩ := List.filter_eq_cons_iff.mp hbehind
  refine ⟨front ++ skipped, back, by rw [has, hback, List.append_assoc], ?_⟩
  rw [List.filter_append, hfront, List.filter_eq_nil_iff.mpr hskipped, List.append_nil]

theorem isCut_words (hwidth : 0 < width) (line : List Char) :
    List.Forall₂ (IsCut width) (spacedWords line) ((spacedWords line).map (partsOf width)) := by
  rw [List.forall₂_map_right_iff, List.forall₂_same]
  exact fun word hword => isCut_partsOf hwidth (mem_spacedWords hword).1

theorem flatten_flatten_of_isCut {words : List (List Char)} {parts : List (List (List Char))}
    (h : List.Forall₂ (IsCut width) words parts) : parts.flatten.flatten = words.flatten := by
  induction h with
  | nil => rfl
  | cons hcut _ ih => rw [List.flatten_cons, List.flatten_append, hcut.flatten, ih, List.flatten_cons]

theorem flatten_flatMap_spacedWords (rows : List (List Char)) :
    (rows.flatMap spacedWords).flatten = rows.flatten.filter (· ≠ ' ') := by
  induction rows with
  | nil => rfl
  | cons row rows ih =>
    rw [List.flatMap_cons, List.flatten_append, flatten_spacedWords, ih, List.flatten_cons, List.filter_append]

theorem flatMap_spacedWords_wrap (hwidth : 0 < width) (line : List Char) :
    (wrap width line).flatMap spacedWords = ((spacedWords line).map (partsOf width)).flatten := by
  rw [wrap, split_eq_splitOn, flatMap_spacedWords_wrapWords hwidth fun _ => not_mem_of_mem_splitOn, spacedWords_nil,
    List.nil_append, ← flatMap_partsOf_filter, List.flatMap_def]
  rfl

theorem breaksLate_wrap (hwidth : 0 < width) (line : List Char) :
    BreaksLate width (spacedWords line) ((spacedWords line).map (partsOf width)) (wrap width line) := by
  intro before after row n word hrows hparts hword
  obtain ⟨front, back, hsplit, hfront⟩ := exists_of_getElem?_filter hword
  rw [wrap, split_eq_splitOn] at hrows
  refine lt_of_break hwidth (fun _ => not_mem_of_mem_splitOn) hsplit
    (mem_spacedWords (List.mem_of_getElem? hword)).1 hrows ?_
  have hcount := congrArg List.length hparts
  rw [← List.map_take, ← List.flatMap_def, spacedWords, ← hfront, flatMap_partsOf_filter, List.flatMap_append,
    List.flatMap_singleton, List.length_append] at hcount
  rw [hcount, spacedWords_nil, List.length_nil, Nat.zero_add]

theorem isWrapping_wrap (hwidth : 0 < width) (line : List Char) : IsWrapping width line (wrap width line) := by
  have hcut := isCut_words hwidth line
  have hwords := flatMap_spacedWords_wrap hwidth line
  refine ⟨wrapWords_ne_nil _ _ _, fun row hrow => ?_, ⟨_, hcut, hwords, breaksLate_wrap hwidth line⟩,
    fun word hword hfits => ?_, ?_⟩
  · rw [wrap, split_eq_splitOn] at hrow
    exact length_le_of_mem_wrapWords hwidth (fun _ => not_mem_of_mem_splitOn) (Nat.zero_le _) hrow
  · have hpart : partsOf width word = [word] := (isCut_partsOf hwidth (mem_spacedWords hword).1).eq_singleton hfits
    have hmem : word ∈ (wrap width line).flatMap spacedWords := by
      rw [hwords, ← List.flatMap_def]
      exact List.mem_flatMap.mpr ⟨word, hword, hpart ▸ List.mem_cons_self⟩
    exact List.mem_flatMap.mp hmem
  · rw [← flatten_flatMap_spacedWords, hwords, flatten_flatten_of_isCut hcut, flatten_spacedWords]

/-! ## The box -/

theorem innerWidth_pos (columns : Nat) : 0 < innerWidth columns := by
  unfold innerWidth boxWidth
  omega

theorem length_edge (columns : Nat) (left right : Char) :
    (edge false columns left right).length = boxWidth columns := by
  have hwidth : 2 ≤ boxWidth columns := by
    unfold boxWidth
    omega
  have htext : (edge false columns left right).toList =
      left :: (List.replicate (boxWidth columns - 2) '─' ++ [right]) := by
    simp [edge, Style.paint]
  rw [← String.length_toList, htext]
  simp only [List.length_cons, List.length_append, List.length_replicate, List.length_nil]
  omega

theorem length_boxRow {columns : Nat} (h : row.length ≤ innerWidth columns) :
    (boxRow false columns row).length = boxWidth columns := by
  have hwidth : innerWidth columns + 4 = boxWidth columns := by
    unfold innerWidth boxWidth
    omega
  have htext : (boxRow false columns row).toList =
      '│' :: ' ' :: (row ++ List.replicate (innerWidth columns - row.length) ' ' ++ [' ', '│']) := by
    simp [boxRow, Style.paint, String.join]
  rw [← String.length_toList, htext]
  simp only [List.length_cons, List.length_append, List.length_replicate, List.length_nil]
  omega

theorem length_of_mem_box {columns : Nat} {reply shown : String} (h : shown ∈ box false columns reply) :
    shown.length = boxWidth columns := by
  rcases List.mem_append.mp h with h | h
  · rcases List.mem_cons.mp h with rfl | h
    · exact length_edge columns _ _
    · obtain ⟨row, hrow, rfl⟩ := List.mem_map.mp h
      obtain ⟨line, -, hrow⟩ := List.mem_flatMap.mp hrow
      exact length_boxRow ((isWrapping_wrap (innerWidth_pos columns) line).fits row hrow)
  · cases List.mem_singleton.mp h
    exact length_edge columns _ _

/-- A line is wrapped without losing a word: the rows hold its words in order, each as it is or, where it is
longer than a row, in parts, and a row ends between two words only where the second one has no room in it.  So
all rows of a box that is shown without colours are as wide as the box. -/
theorem wrap_keeps_words {width : Nat} (hwidth : 0 < width) (line : List Char) :
    IsWrapping width line (wrap width line) ∧
      ∀ (columns : Nat) (reply : String), ∀ shown ∈ box false columns reply, shown.length = boxWidth columns :=
  ⟨isWrapping_wrap hwidth line, fun _ _ _ => length_of_mem_box⟩

theorem wrap_keeps_words_cut :
    0 < 4 ∧ IsWrapping 4 "ab  abcdefghij k".toList (wrap 4 "ab  abcdefghij k".toList) ∧
      wrap 4 "ab  abcdefghij k".toList = ["ab ".toList, "abcd".toList, "efgh".toList, "ij k".toList] ∧
      ∀ shown ∈ box false 80 "ab  abcdefghij k", shown.length = boxWidth 80 := by
  obtain ⟨hwrapping, hbox⟩ := wrap_keeps_words (show 0 < 4 by decide) "ab  abcdefghij k".toList
  exact ⟨by decide, hwrapping, by decide +kernel, hbox 80 _⟩

end ChatAssistant.Terminal
