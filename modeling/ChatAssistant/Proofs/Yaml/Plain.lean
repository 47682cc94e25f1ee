import ChatAssistant.Proofs.Yaml.Quoted

/-!
# Reading plain scalars back

A plain scalar ends in front of the colon of a key, or with its line.  Nothing in it may look like its end.
-/

namespace ChatAssistant.Yaml

/-! ## Separations -/

theorem isAnyBreak_eq_false_of_not_separated {c : Char} {s : List Char} (h : isSeparatedBy (c :: s) = false) :
    isBlank c = false ∧ isBreak c = false := by
  simp only [isSeparatedBy, isAnyBreak, Bool.or_eq_false_iff] at h
  exact ⟨h.1.1, h.1.2.1.1⟩

-- What does not separate words in a text does not end a word for the reader.
theorem endsWord_append_of_not_separated {s : List Char} (h : isSeparatedBy s = false) (r : List Char) :
    endsWord (s ++ r) = false := by
  cases s with
  | nil => cases h
  | cons c s =>
    obtain ⟨hblank, hbreak⟩ := isAnyBreak_eq_false_of_not_separated h
    rw [List.cons_append, endsWord, hblank, hbreak]
    rfl

/-- What a text needs to be read as a plain scalar. -/
structure PlainText (s : List Char) : Prop where
  ne_nil : s ≠ []
  line : ∀ c ∈ s, isBreak c = false
  start : startsWithIndicator s = false
  inner : hasInnerIndicator true s = false
  first : s.head?.any isBlank = false
  last : s.getLast?.any isBlank = false

-- It starts with no sign, or with one that has no blank behind it.
theorem PlainText.ne_sign {c : Char} {cs : List Char} (h : PlainText (c :: cs)) :
    ∀ d ∈ "#,[]&*!|>'\"%@`\x7b\x7d".toList, c ≠ d := by
  have hstart := h.start
  simp only [startsWithIndicator, Bool.or_eq_false_iff, beq_eq_false_iff_ne, List.contains_eq_mem,
    decide_eq_false_iff_not] at hstart
  obtain ⟨⟨⟨hsigns, hopen⟩, hclose⟩, -⟩ := hstart
  rintro d hd rfl
  have hlist : "#,[]&*!|>'\"%@`\x7b\x7d".toList = "#,[]&*!|>'\"%@`".toList ++ ['\x7b', '\x7d'] := by decide
  rw [hlist, List.mem_append, List.mem_cons, List.mem_singleton] at hd
  exact hd.elim hsigns (·.elim hopen hclose)

theorem PlainText.endsWord_of_sign {c : Char} {cs : List Char} (h : PlainText (c :: cs))
    (hc : c = '?' ∨ c = ':' ∨ c = '-') (more : List Char) : endsWord (cs ++ more) = false := by
  have hstart := h.start
  simp only [startsWithIndicator, Bool.or_eq_false_iff, beq_eq_false_iff_ne] at hstart
  refine endsWord_append_of_not_separated ?_ more
  simpa [hc, or_assoc] using hstart.2

theorem not_isBlank_of_endsWord {cs : List Char} (h : endsWord cs = false) : cs.head?.any isBlank = false := by
  cases cs with
  | nil => rfl
  | cons c rest =>
    rw [endsWord, Bool.or_eq_false_iff] at h
    exact h.1

section

variable {t : List Char} {g : Gap} {p : Cursor} {indent : Int} {r : List Char}

/-! ## The text -/

-- A character that is no blank continues a scalar.
theorem plainFrom_char {c : Char} (hblank : isBlank c = false) (hbreak : isBreak c = false)
    (hmark : g.isNone = false → c ≠ '#') (hcolon : c = ':' → endsWord r = false)
    (hplace : g.isNone = false → indent ≤ p.column ∧ p.column ≠ 0) :
    plainFrom false indent t g p (c :: r) =
      plainFrom false indent (c :: (g.folded ++ t)) .none (p.along r) r := by
  have hgoesOn : (!g.isNone &&
      ((!false && decide ((p.column : Int) < indent)) || p.atDocumentMark || c == '#')) = false := by
    cases hnone : g.isNone with
    | true => rfl
    | false =>
      obtain ⟨hindent, hcolumn⟩ := hplace hnone
      simp [Cursor.atDocumentMark_of_column hcolumn, hmark hnone, hindent]
  have hword : (c == ':' && endsWord r || false && isFlowEnd c) = false := by
    by_cases hc : c = ':'
    · rw [hcolon hc, Bool.and_false]
      rfl
    · simp [hc]
  rw [plainFrom, hblank, hbreak, hgoesOn, hword]
  simp

-- A text on one line is read up to its last character.
theorem plainFrom_text {s : List Char} {afterBlank : Bool} (hline : ∀ c ∈ s, isBreak c = false)
    (hinner : hasInnerIndicator afterBlank s = false) (hlast : s.getLast?.any isBlank = false)
    (hinline : g.IsInline) (hgap : g.isNone = false → afterBlank = true ∧ s ≠ [])
    (hindent : indent ≤ p.column + 1)
    (hplace : g.isNone = false → indent ≤ p.column ∧ p.column ≠ 0) :
    plainFrom false indent t g p (s ++ r) =
      plainFrom false indent (s.reverse ++ (g.folded ++ t)) .none (p.past s r) r := by
  induction s generalizing t g p afterBlank with
  | nil =>
    cases g with
    | none => rfl
    | blanks => exact absurd rfl (hgap rfl).2
    | breaks => exact hinline.elim
  | cons c s ih =>
    rw [List.forall_mem_cons] at hline
    simp only [hasInnerIndicator, Bool.or_eq_false_iff] at hinner
    obtain ⟨⟨hcolon, hmark⟩, hinner⟩ := hinner
    have hlast' : s.getLast?.any isBlank = false := by
      cases s with
      | nil => rfl
      | cons d s => rwa [List.getLast?_cons_cons] at hlast
    rw [List.cons_append, List.reverse_cons, List.append_assoc, ← Cursor.past_cons_of_not_isBreak hline.1]
    by_cases hblank : isBlank c = true
    · -- A blank waits for the character behind it.
      obtain ⟨hnext, hfolded⟩ := hinline.addBlank c
      have hsome : s ≠ [] := by
        rintro rfl
        rw [List.getLast?_singleton, Option.any_some, hblank] at hlast
        cases hlast
      have hstays : (g.isBreaks && c == '\t' && decide ((p.column : Int) < indent)) = false := by
        cases g with
        | breaks => exact hinline.elim
        | none => rfl
        | blanks => rfl
      rw [plainFrom, if_pos hblank, if_neg (by rw [hstays]; decide),
        ih hline.2 hinner hlast' hnext (fun _ => ⟨by simp [isSeparatedBy, hblank], hsome⟩)
          (by change indent ≤ (p.column + 1 : Nat) + 1; omega)
          (fun _ => ⟨by change indent ≤ (p.column + 1 : Nat); omega, Nat.succ_ne_zero _⟩), hfolded]
      rfl
    · rw [plainFrom_char (Bool.eq_false_iff.mpr hblank) hline.1 ?_ ?_ hplace,
        ih (g := .none) hline.2 hinner hlast' trivial (fun h => by cases h)
          (by change indent ≤ (p.column + 1 : Nat) + 1; omega) (fun h => by cases h)]
      · rfl
      · intro hsome hc
        rw [hc, (hgap hsome).1] at hmark
        cases hmark
      · intro hc
        rw [hc] at hcolon
        exact endsWord_append_of_not_separated hcolon r

/-! ## Its end -/

theorem Cursor.column_past_newLine (p : Cursor) (n : Nat) (rest : List Char) :
    (p.past ('\n' :: spaces n) rest).column = n := by
  rw [column_past]
  change columnAfter 0 (spaces n) = n
  rw [columnAfter_of_line not_isBreak_of_mem_spaces, spaces, List.length_replicate, Nat.zero_add]

theorem Cursor.line_lt_past_newLine (p : Cursor) (n : Nat) (rest : List Char) :
    p.line < (p.past ('\n' :: spaces n) rest).line := by
  rw [line_past, List.countP_cons, if_pos (by decide)]
  omega

/-- The start of content: the end of the stream, or a character that is neither white space nor starts a
comment. -/
def StartsContent : List Char → Prop
  | [] => True
  | c :: _ => isBlank c = false ∧ isBreak c = false ∧ c ≠ '#' ∧ c ≠ byteOrderMark

theorem plainFrom_key (hrest : endsWord r = true) :
    plainFrom false indent t .none p (':' :: r) = some (t, false, p) := by
  rw [plainFrom, if_neg (by decide), if_neg (by decide), if_neg (by simp [Gap.isNone]), if_neg (by simp),
    if_pos (by simp [hrest])]
  rfl

theorem plainFrom_spaces (first : Option Char) (more : List Char) (n : Nat) :
    plainFrom false indent t (.breaks first more) p (spaces n ++ r) =
      plainFrom false indent t (.breaks first more) (p.past (spaces n) r) r := by
  induction n generalizing p with
  | zero => rfl
  | succ n ih =>
    rw [spaces, List.replicate_succ, List.cons_append, plainFrom, if_pos (by decide), if_neg (by simp)]
    exact ih

-- A scalar ends with its line, where the next one is not indented further.
theorem plainFrom_lineEnd {n : Nat} (hrest : StartsContent r) (hn : (n : Int) < indent) :
    plainFrom false indent t .none p ('\n' :: (spaces n ++ r)) =
      some (t, true, p.past ('\n' :: spaces n) r) := by
  rw [plainFrom, if_neg (by decide), if_pos (by decide)]
  change plainFrom false indent t (.breaks (some '\n') []) (p.newLine (spaces n ++ r))
    (spaces n ++ r) = _
  rw [plainFrom_spaces]
  change plainFrom false indent t _ (p.past ('\n' :: spaces n) r) r = _
  have hcolumn := p.column_past_newLine n r
  cases r with
  | nil => rfl
  | cons c r =>
    obtain ⟨hblank, hbreak, -, -⟩ := hrest
    rw [plainFrom, hblank, hbreak, if_neg (by decide), if_neg (by decide),
      if_pos (by simp [Gap.isNone, hcolumn, hn])]
    rfl

end

end ChatAssistant.Yaml
