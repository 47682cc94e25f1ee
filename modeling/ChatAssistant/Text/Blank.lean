/-!
# Blank characters

Blank characters are those with the Unicode property White_Space.  Text is trimmed at both ends and
cut into words at them.
-/

namespace ChatAssistant.Text

/-- A character with the Unicode property White_Space. -/
def isBlank (c : Char) : Bool :=
  let n := c.toNat
  (9 ≤ n && n ≤ 13) || n == 0x20 || n == 0x85 || n == 0xA0 || n == 0x1680 ||
    (0x2000 ≤ n && n ≤ 0x200A) || n == 0x2028 || n == 0x2029 || n == 0x202F || n == 0x205F ||
    n == 0x3000

/-- The text without the blanks at its end. -/
def dropEndBlanks (cs : List Char) : List Char :=
  (cs.reverse.dropWhile isBlank).reverse

/-- The text without the blanks at its two ends. -/
def trimChars (cs : List Char) : List Char :=
  dropEndBlanks (cs.dropWhile isBlank)

/-- The text without the blanks at its two ends. -/
def trim (s : String) : String :=
  String.ofList (trimChars s.toList)

/-- The text without the blanks at its end. -/
def trimEnd (s : String) : String :=
  String.ofList (dropEndBlanks s.toList)

/-- Nothing but blanks, the empty text included. -/
def isBlankText (s : String) : Bool :=
  s.toList.all isBlank

-- The last character that is left is no blank.
theorem dropEndBlanks_eq_nil {cs : List Char} (h : (dropEndBlanks cs).all isBlank = true) :
    dropEndBlanks cs = [] := by
  rw [dropEndBlanks, List.all_reverse, List.all_eq_true] at h
  refine List.reverse_eq_nil_iff.mpr (Classical.byContradiction fun hne => ?_)
  have hkept := List.head_dropWhile_not isBlank hne
  rw [h _ (List.head_mem hne)] at hkept
  cases hkept

theorem isEmpty_trim_of_isBlankText {s : String} (h : isBlankText (trim s) = true) :
    (trim s).isEmpty = true := by
  rw [isBlankText, trim, String.toList_ofList] at h
  rw [trim, trimChars, dropEndBlanks_eq_nil h]
  rfl

theorem all_of_dropWhile_eq_nil {cs : List Char} (h : cs.dropWhile isBlank = []) :
    cs.all isBlank = true := by
  have hsplit := cs.takeWhile_append_dropWhile (p := isBlank)
  rw [h, List.append_nil] at hsplit
  rw [← hsplit]
  exact List.all_takeWhile

-- A text that is not blank is not blank either when it is trimmed.
theorem isBlankText_trim {s : String} (h : isBlankText s = false) : isBlankText (trim s) = false := by
  refine Bool.eq_false_iff.mpr fun htrim => ?_
  rw [isBlankText, trim, String.toList_ofList] at htrim
  have hend := List.reverse_eq_nil_iff.mp (dropEndBlanks_eq_nil htrim)
  have hblank := all_of_dropWhile_eq_nil hend
  rw [List.all_reverse] at hblank
  -- From the first character that is not blank on nothing is left, so that there is no such character.
  have hnone : s.toList.dropWhile isBlank = [] := Classical.byContradiction fun hne => by
    have hhead := List.head_dropWhile_not isBlank hne
    rw [List.all_eq_true.mp hblank _ (List.head_mem hne)] at hhead
    cases hhead
  rw [isBlankText, all_of_dropWhile_eq_nil hnone] at h
  cases h

/-- The maximal runs of non-blank characters; `word` holds the run being read, last character
first. -/
def wordsFrom (word : List Char) : List Char → List String
  | [] => if word.isEmpty then [] else [String.ofList word.reverse]
  | c :: rest =>
    if isBlank c then
      if word.isEmpty then wordsFrom [] rest
      else String.ofList word.reverse :: wordsFrom [] rest
    else wordsFrom (c :: word) rest

/-- The maximal runs of non-blank characters, in order. -/
def words (s : String) : List String :=
  wordsFrom [] s.toList

end ChatAssistant.Text
