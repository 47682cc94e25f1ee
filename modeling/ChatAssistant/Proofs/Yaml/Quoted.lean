import ChatAssistant.Yaml.Printer
import ChatAssistant.Yaml.Scalar
import Mathlib.Tactic.Ring

/-!
# Reading quoted scalars back

What the writer puts between quotes is read as the text it stands for.  A reader is followed along the
text by the place that it has reached.
-/

namespace ChatAssistant.Yaml

/-! ## Places -/

namespace Cursor

/-- The place behind a text that is followed by `rest`. -/
def past (c : Cursor) : List Char → List Char → Cursor
  | [], _ => c
  | d :: text, rest => (c.step d (text ++ rest)).past text rest

/-- The column behind a text that starts in a column. -/
def columnAfter : Nat → List Char → Nat
  | column, [] => column
  | column, c :: text => columnAfter (if isBreak c then 0 else column + 1) text

theorem past_cons_of_not_isBreak {d : Char} (h : isBreak d = false) (c : Cursor)
    (text rest : List Char) :
    (c.along (text ++ rest)).past text rest = c.past (d :: text) rest := by
  rw [past, step, h, if_neg Bool.false_ne_true]

theorem past_cons_of_isBreak {d : Char} (h : isBreak d = true) (c : Cursor)
    (text rest : List Char) :
    (c.newLine (text ++ rest)).past text rest = c.past (d :: text) rest := by
  rw [past, step, if_pos h]

-- The same for a text up to its last character.
theorem past_cons_last {d : Char} (c : Cursor) (text : List Char) (last : Char) (rest : List Char) :
    (c.step d (text ++ last :: rest)).past (text ++ [last]) rest =
      c.past (d :: (text ++ [last])) rest := by
  rw [past, List.append_assoc, List.singleton_append]

theorem step_of_not_isBreak {d : Char} (h : isBreak d = false) (c : Cursor) (rest : List Char) :
    c.step d rest = c.along rest := by
  rw [step, h, if_neg Bool.false_ne_true]

theorem step_of_isBreak {d : Char} (h : isBreak d = true) (c : Cursor) (rest : List Char) :
    c.step d rest = c.newLine rest := by
  rw [step, if_pos h]

theorem past_append (c : Cursor) (text more rest : List Char) :
    c.past (text ++ more) rest = (c.past text (more ++ rest)).past more rest := by
  induction text generalizing c with
  | nil => rfl
  | cons d text ih => rw [List.cons_append, past, past, ih, List.append_assoc]

theorem column_past (c : Cursor) (text rest : List Char) :
    (c.past text rest).column = columnAfter c.column text := by
  induction text generalizing c with
  | nil => rfl
  | cons d text ih =>
    rw [past, ih, columnAfter, step]
    split <;> rfl

theorem line_past (c : Cursor) (text rest : List Char) :
    (c.past text rest).line = c.line + text.countP isBreak := by
  induction text generalizing c with
  | nil => rfl
  | cons d text ih =>
    rw [past, ih, List.countP_cons, step]
    split
    · change c.line + 1 + _ = _
      omega
    · rfl

theorem index_past (c : Cursor) (text rest : List Char) :
    (c.past text rest).index = c.index + text.length := by
  induction text generalizing c with
  | nil => rfl
  | cons d text ih =>
    rw [past, ih, List.length_cons, step]
    split <;> simp only [newLine, along] <;> omega

theorem rest_past {c : Cursor} {text rest : List Char} (h : c.rest = text ++ rest) :
    (c.past text rest).rest = rest := by
  induction text generalizing c with
  | nil => exact h
  | cons d text ih =>
    rw [past]
    apply ih
    rw [step]
    split <;> rfl

theorem columnAfter_of_line {text : List Char} (h : ∀ c ∈ text, isBreak c = false) (column : Nat) :
    columnAfter column text = column + text.length := by
  induction text generalizing column with
  | nil => rfl
  | cons c text ih =>
    rw [List.forall_mem_cons] at h
    rw [columnAfter, h.1, ih h.2, List.length_cons]
    simp only [Bool.false_eq_true, if_false]
    omega

theorem column_past_ne_zero {c : Cursor} {text : List Char} (h : c.column ≠ 0)
    (hline : ∀ d ∈ text, isBreak d = false) (rest : List Char) : (c.past text rest).column ≠ 0 := by
  rw [column_past, columnAfter_of_line hline]
  omega

theorem columnAfter_append (column : Nat) (text more : List Char) :
    columnAfter column (text ++ more) = columnAfter (columnAfter column text) more := by
  induction text generalizing column with
  | nil => rfl
  | cons c text ih => rw [List.cons_append, columnAfter, columnAfter, ih]

theorem atDocumentMark_of_column {c : Cursor} (h : c.column ≠ 0) : c.atDocumentMark = false := by
  simp [atDocumentMark, h]

end Cursor

/-! ## Between double quotes -/

/-- Blanks of one line, or nothing. -/
def Gap.IsInline : Gap → Prop
  | .breaks _ _ => False
  | _ => True

theorem Gap.IsInline.addBlank {g : Gap} (h : g.IsInline) (c : Char) :
    (g.addBlank c).IsInline ∧ (g.addBlank c).folded = c :: g.folded := by
  cases g with
  | none => exact ⟨trivial, rfl⟩
  | blanks => exact ⟨trivial, rfl⟩
  | breaks => exact h.elim

section DoubleQuoted

variable {t : List Char} {g : Gap} {p : Cursor} {r : List Char}

-- A character that stands for itself.
theorem doubleQuotedFrom_self (h : p.column ≠ 0) {c : Char} (hblank : isBlank c = false)
    (hbreak : isBreak c = false) (hquote : c ≠ '"') (hescape : c ≠ '\\') :
    doubleQuotedFrom .text t g p (c :: r) =
      doubleQuotedFrom .text (c :: (g.folded ++ t)) .none (p.past [c] r) r := by
  rw [doubleQuotedFrom, hblank, hbreak, Cursor.atDocumentMark_of_column h, if_neg (by decide),
    if_neg (by decide), if_neg (by decide), if_neg hquote, if_neg hescape,
    ← Cursor.past_cons_of_not_isBreak hbreak]
  rfl

-- The sign in front of an escape.
theorem doubleQuotedFrom_sign (h : p.column ≠ 0) :
    doubleQuotedFrom .text t g p ('\\' :: r) =
      doubleQuotedFrom .escape (g.folded ++ t) .none (p.along r) r := by
  rw [doubleQuotedFrom, Cursor.atDocumentMark_of_column h, if_neg (by decide), if_neg (by decide),
    if_neg (by decide), if_neg (by decide), if_pos rfl]

theorem doubleQuotedFrom_escape (h : p.column ≠ 0) {sign char : Char}
    (hsign : escapedChar? sign = some char) (hbreak : isBreak sign = false) :
    doubleQuotedFrom .text t g p ('\\' :: sign :: r) =
      doubleQuotedFrom .text (char :: (g.folded ++ t)) .none
        (p.past ['\\', sign] r) r := by
  rw [doubleQuotedFrom_sign h, doubleQuotedFrom, hbreak, if_neg (by decide), hsign,
    ← Cursor.past_cons_of_not_isBreak (d := '\\') rfl,
    ← Cursor.past_cons_of_not_isBreak hbreak]
  rfl

/-! ### Codes -/

theorem hexDigit?_upperHex {n : Nat} (h : n < 16) : hexDigit? (upperHex n) = some n := by
  revert n
  decide

theorem isBreak_upperHex {n : Nat} (h : n < 16) : isBreak (upperHex n) = false := by
  revert n
  decide

theorem doubleQuotedFrom_digit {digit : Nat} (h : digit < 16) (value more : Nat) :
    doubleQuotedFrom (.code (more + 2) value) t .none p (upperHex digit :: r) =
      doubleQuotedFrom (.code (more + 1) (value * 16 + digit)) t .none
        (p.past [upperHex digit] r) r := by
  rw [← Cursor.past_cons_of_not_isBreak (isBreak_upperHex h)]
  simp [doubleQuotedFrom, hexDigit?_upperHex h, Cursor.past]

theorem doubleQuotedFrom_lastDigit {digit value : Nat} (h : digit < 16) {c : Char}
    (hvalue : value * 16 + digit = c.toNat) :
    doubleQuotedFrom (.code 1 value) t .none p (upperHex digit :: r) =
      doubleQuotedFrom .text (c :: t) .none (p.past [upperHex digit] r) r := by
  have hchar : charOfCode? c.toNat = some c := by
    rw [charOfCode?, dif_pos (show c.toNat.isValidChar from c.valid)]
    rfl
  rw [← Cursor.past_cons_of_not_isBreak (isBreak_upperHex h)]
  simp [doubleQuotedFrom, hexDigit?_upperHex h, hvalue, hchar, Cursor.past]

theorem not_isBreak_of_mem_hexOf {count n : Nat} : ∀ c ∈ hexOf n count, isBreak c = false := by
  induction count generalizing n with
  | zero => exact fun c hc => by cases hc
  | succ count ih =>
    intro c hc
    rcases List.mem_append.mp hc with hc | hc
    · exact ih c hc
    · rw [List.mem_singleton.mp hc]
      exact isBreak_upperHex (Nat.mod_lt n (by decide))

-- All digits of a code but the last ones.
theorem doubleQuotedFrom_digits (count n value more : Nat) :
    doubleQuotedFrom (.code (count + (more + 1)) value) t .none p (hexOf n count ++ r) =
      doubleQuotedFrom (.code (more + 1) (value * 16 ^ count + n % 16 ^ count)) t .none
        (p.past (hexOf n count) r) r := by
  induction count generalizing n more r with
  | zero =>
    rw [hexOf, List.nil_append, Nat.pow_zero, Nat.mod_one, Nat.mul_one, Nat.zero_add, Nat.add_zero]
    rfl
  | succ count ih =>
    have hdigit : n % 16 < 16 := Nat.mod_lt n (by decide)
    have hvalue : (value * 16 ^ count + n / 16 % 16 ^ count) * 16 + n % 16 =
        value * 16 ^ (count + 1) + n % 16 ^ (count + 1) := by
      rw [Nat.pow_succ, Nat.mul_comm (16 ^ count) 16, Nat.mod_mul, Nat.add_mul]
      ring
    have hcount : count + 1 + (more + 1) = count + (more + 1 + 1) := by omega
    rw [hcount, hexOf, List.append_assoc, List.singleton_append, ih, doubleQuotedFrom_digit hdigit,
      hvalue, Cursor.past_append]
    rfl

theorem doubleQuotedFrom_code (h : p.column ≠ 0) {sign c : Char} {count : Nat}
    (hsign : escapedChar? sign = none) (hlength : codeLength? sign = some (count + 1))
    (hbreak : isBreak sign = false) (hcode : c.toNat < 16 ^ (count + 1)) :
    doubleQuotedFrom .text t g p ('\\' :: sign :: (hexOf c.toNat (count + 1) ++ r)) =
      doubleQuotedFrom .text (c :: (g.folded ++ t)) .none
        (p.past ('\\' :: sign :: hexOf c.toNat (count + 1)) r) r := by
  have hdigit : c.toNat % 16 < 16 := Nat.mod_lt _ (by decide)
  have hvalue : c.toNat / 16 % 16 ^ count * 16 + c.toNat % 16 = c.toNat := by
    rw [Nat.mod_eq_of_lt (Nat.div_lt_of_lt_mul (by rwa [Nat.pow_succ, Nat.mul_comm] at hcode))]
    omega
  rw [doubleQuotedFrom_sign h, doubleQuotedFrom, hbreak, if_neg (by decide), hsign, hlength]
  dsimp only
  rw [hexOf, List.append_assoc, List.singleton_append, doubleQuotedFrom_digits count _ 0 0,
    doubleQuotedFrom_lastDigit hdigit (by rw [Nat.zero_mul, Nat.zero_add, hvalue]),
    ← Cursor.past_cons_of_not_isBreak (d := '\\') rfl,
    ← Cursor.past_cons_of_not_isBreak hbreak, Cursor.past_append]
  simp only [List.append_assoc, List.cons_append, List.nil_append]

/-! ### Whole texts -/

theorem eq_false_of_mem {f : Char → Bool} {cs : List Char} (h : cs.any f = false) : ∀ c ∈ cs, f c = false :=
  fun c hc => Bool.eq_false_iff.mpr (List.any_eq_false.mp h c hc)

theorem not_isBlank_of_isVisible {c : Char} (h : isVisible c = true) (hspace : c ≠ ' ') :
    isBlank c = false := by
  have htab : c ≠ '\t' := by
    rintro rfl
    exact absurd h (by decide)
  simp [isBlank, hspace, htab]

-- Whatever the character is, it is written on one line and read back.
theorem doubleQuotedFrom_char (h : p.column ≠ 0) {c : Char} (hspace : c ≠ ' ') :
    doubleQuotedFrom .text t g p (doubleChar c ++ r) =
        doubleQuotedFrom .text (c :: (g.folded ++ t)) .none
          (p.past (doubleChar c) r) r ∧
      ∀ d ∈ doubleChar c, isBreak d = false := by
  unfold doubleChar
  split
  case h_1 | h_2 | h_3 | h_4 | h_5 | h_6 | h_7 | h_8 | h_9 | h_10 | h_11 | h_12 | h_13 | h_14 =>
    exact ⟨doubleQuotedFrom_escape h rfl rfl, eq_false_of_mem rfl⟩
  case h_15 hnull hbell hbackspace htab hfeed hvertical hform hreturn hescape hquote hslash hnext hline
      hparagraph =>
    have hbreak : isBreak c = false := by
      simp only [isBreak, Bool.or_eq_false_iff, beq_eq_false_iff_ne]
      exact ⟨⟨hfeed, hline⟩, hparagraph⟩
    by_cases hvisible : isVisible c = true
    · rw [if_pos hvisible]
      refine ⟨?_, by simpa using hbreak⟩
      exact doubleQuotedFrom_self h (not_isBlank_of_isVisible hvisible hspace) hbreak hquote hslash
    · rw [if_neg hvisible]
      have hdigits : ∀ sign count, isBreak sign = false →
          ∀ d ∈ '\\' :: sign :: hexOf c.toNat count, isBreak d = false := by
        intro sign count hsign d hd
        rcases List.mem_cons.mp hd with rfl | hd
        · rfl
        · rcases List.mem_cons.mp hd with rfl | hd
          · exact hsign
          · exact not_isBreak_of_mem_hexOf d hd
      split
      · next hshort =>
        exact ⟨doubleQuotedFrom_code h rfl rfl rfl (by omega), hdigits 'x' 2 rfl⟩
      · split
        · next hshort =>
          exact ⟨doubleQuotedFrom_code h rfl rfl rfl (by omega), hdigits 'u' 4 rfl⟩
        · have hvalid : c.toNat < 0xD800 ∨ (0xDFFF < c.toNat ∧ c.toNat < 0x110000) := c.valid
          exact ⟨doubleQuotedFrom_code h rfl rfl rfl (by omega), hdigits 'U' 8 rfl⟩

-- A text is read back between double quotes.
theorem doubleQuotedFrom_written (h : p.column ≠ 0) (hgap : g.IsInline) (s : List Char) :
    doubleQuotedFrom .text t g p (s.flatMap doubleChar ++ '"' :: r) =
      some (s.reverse ++ (g.folded ++ t),
        p.past (s.flatMap doubleChar ++ ['"']) r) := by
  induction s generalizing t g p with
  | nil =>
    rw [List.flatMap_nil, List.nil_append, doubleQuotedFrom, Cursor.atDocumentMark_of_column h,
      if_neg (by decide), if_neg (by decide), if_neg (by decide), if_pos rfl, List.nil_append,
      ← Cursor.past_cons_of_not_isBreak (d := '"') rfl]
    rfl
  | cons c s ih =>
    rw [List.flatMap_cons, List.append_assoc, List.reverse_cons, List.append_assoc]
    by_cases hspace : c = ' '
    · subst hspace
      obtain ⟨hinline, hfolded⟩ := hgap.addBlank ' '
      have hcolumn : (p.along (s.flatMap doubleChar ++ '"' :: r)).column ≠ 0 :=
        Nat.succ_ne_zero p.column
      have hself : doubleChar ' ' = [' '] := by decide
      have hplace := p.past_cons_last (d := ' ') (s.flatMap doubleChar) '"' r
      rw [Cursor.step_of_not_isBreak rfl] at hplace
      rw [hself, List.singleton_append, doubleQuotedFrom, if_pos (by decide), ih hcolumn hinline, hfolded,
        hplace, List.append_assoc]
      rfl
    · obtain ⟨hread, hline⟩ := doubleQuotedFrom_char (t := t) (g := g)
        (r := s.flatMap doubleChar ++ '"' :: r) h hspace
      have hcolumn := Cursor.column_past_ne_zero h hline (s.flatMap doubleChar ++ '"' :: r)
      have hplace := p.past_append (doubleChar c) (s.flatMap doubleChar ++ ['"']) r
      rw [List.append_assoc _ ['"'], List.singleton_append] at hplace
      rw [hread, ih (g := .none) hcolumn trivial, List.append_assoc (doubleChar c), hplace]
      rfl

end DoubleQuoted

/-! ## Between single quotes -/

theorem hasPair_cons (p q : Char → Bool) (c : Char) (s : List Char) :
    hasPair p q (c :: s) = ((p c && s.head?.any q) || hasPair p q s) := by
  cases s with
  | nil => simp [hasPair]
  | cons d s => rfl

theorem isAnyBreak_of_isBreak {c : Char} (h : isBreak c = true) : isAnyBreak c = true := by
  simp [isAnyBreak, h]

theorem isBlank_of_isBreak {c : Char} (h : isBreak c = true) : isBlank c = false := by
  simp only [isBreak, Bool.or_eq_true, beq_iff_eq] at h
  rcases h with (rfl | rfl) | rfl <;> rfl

/-- A text that single quotes keep as it is: line ends in it are no line feeds, and have no space beside
them. -/
structure KeptBySingle (s : List Char) : Prop where
  visible : ∀ c ∈ s, isVisible c = true
  feed : '\n' ∉ s
  before : hasPair isSpace isAnyBreak s = false
  behind : hasPair isAnyBreak isSpace s = false

theorem KeptBySingle.tail {c : Char} {s : List Char} (h : KeptBySingle (c :: s)) : KeptBySingle s := by
  have hbefore := h.before
  have hbehind := h.behind
  rw [hasPair_cons, Bool.or_eq_false_iff] at hbefore hbehind
  exact ⟨fun d hd => h.visible d (List.mem_cons_of_mem c hd),
    fun hfeed => h.feed (List.mem_cons_of_mem c hfeed), hbefore.2, hbehind.2⟩

/-- A gap in front of a text that single quotes keep. -/
def Gap.Precedes : Gap → List Char → Prop
  | .none, _ => True
  | .blanks _, s => s.head?.any isBreak = false
  | .breaks first _, s => (∃ c, first = some c ∧ c ≠ '\n') ∧ s.head?.any isSpace = false

theorem Gap.folded_breaks {c : Char} (h : c ≠ '\n') (more : List Char) :
    (Gap.breaks (some c) more).folded = more ++ [c] := by
  simp [folded, h]

theorem Gap.Precedes.addBreak {g : Gap} {c : Char} {s : List Char} (h : g.Precedes (c :: s))
    (hc : isBreak c = true) (hs : KeptBySingle (c :: s)) :
    (g.addBreak c).Precedes s ∧ (g.addBreak c).isBreaks = true ∧
      (g.addBreak c).folded = c :: g.folded := by
  have hfeed : c ≠ '\n' := fun hfeed => hs.feed (hfeed ▸ List.mem_cons_self)
  have hspace : s.head?.any isSpace = false := by
    have hbehind := hs.behind
    rw [hasPair_cons, Bool.or_eq_false_iff, isAnyBreak_of_isBreak hc, Bool.true_and] at hbehind
    exact hbehind.1
  cases g with
  | none => exact ⟨⟨⟨c, rfl, hfeed⟩, hspace⟩, rfl, folded_breaks hfeed []⟩
  | blanks =>
    rw [Precedes, List.head?_cons, Option.any_some, hc] at h
    cases h
  | breaks first more =>
    obtain ⟨⟨d, rfl, hd⟩, -⟩ := h
    refine ⟨⟨⟨d, rfl, hd⟩, hspace⟩, rfl, ?_⟩
    rw [folded_breaks hd more, ← List.cons_append]
    exact folded_breaks hd (c :: more)

theorem Gap.Precedes.addBlank {g : Gap} {s : List Char} (h : g.Precedes (' ' :: s))
    (hs : KeptBySingle (' ' :: s)) :
    g.isBreaks = false ∧ (g.addBlank ' ').Precedes s ∧ (g.addBlank ' ').isBreaks = false ∧
      (g.addBlank ' ').folded = ' ' :: g.folded := by
  have hbreak : s.head?.any isBreak = false := by
    have hbefore := hs.before
    rw [hasPair_cons, Bool.or_eq_false_iff] at hbefore
    cases s with
    | nil => rfl
    | cons d s =>
      by_contra hd
      have hd : isBreak d = true := by simpa using hd
      have hpair := hbefore.1
      rw [List.head?_cons, Option.any_some, isAnyBreak_of_isBreak hd] at hpair
      cases hpair
  cases g with
  | none => exact ⟨rfl, hbreak, rfl, rfl⟩
  | blanks => exact ⟨rfl, hbreak, rfl, rfl⟩
  | breaks => cases h.2

section SingleQuoted

variable {t : List Char} {g : Gap} {p : Cursor} {r : List Char} {indent : Nat}

theorem singleQuotedFrom_spaces (first : Option Char) (more : List Char) (n : Nat) :
    singleQuotedFrom false t (.breaks first more) p (spaces n ++ r) =
      singleQuotedFrom false t (.breaks first more) (p.past (spaces n) r) r := by
  induction n generalizing p with
  | zero => rfl
  | succ n ih =>
    rw [spaces, List.replicate_succ, List.cons_append, singleQuotedFrom, if_neg (by decide),
      if_pos (by decide)]
    exact ih

theorem not_isBreak_of_mem_spaces {n : Nat} : ∀ c ∈ spaces n, isBreak c = false := by
  intro c hc
  rw [List.eq_of_mem_replicate hc]
  rfl

/-- A character between single quotes. -/
def singleChar (c : Char) : List Char := if c = '\'' then ['\'', '\''] else [c]

theorem not_isBreak_of_mem_singleChar {c : Char} (h : isBreak c = false) :
    ∀ d ∈ singleChar c, isBreak d = false := by
  unfold singleChar
  split
  · exact eq_false_of_mem rfl
  · simpa using h

/-- The spaces at the start of a line. -/
def lead (indent : Nat) (atBreak : Bool) : List Char := if atBreak then spaces indent else []

-- A line in the text starts behind the spaces.
theorem singleQuotedFrom_lead (h : p.column ≠ 0 ∨ g.isBreaks = true) (hindent : 0 < indent) :
    singleQuotedFrom false t g p (lead indent g.isBreaks ++ r) =
        singleQuotedFrom false t g (p.past (lead indent g.isBreaks) r) r ∧
      (p.past (lead indent g.isBreaks) r).column ≠ 0 := by
  cases g with
  | breaks first more =>
    refine ⟨singleQuotedFrom_spaces first more indent, ?_⟩
    rw [Cursor.column_past, Gap.isBreaks, lead, if_pos rfl,
      Cursor.columnAfter_of_line not_isBreak_of_mem_spaces, spaces, List.length_replicate]
    omega
  | none => exact ⟨rfl, h.resolve_right (by decide)⟩
  | blanks => exact ⟨rfl, h.resolve_right (by simp [Gap.isBreaks])⟩

-- The closing quote.
theorem singleQuotedFrom_close (h : p.column ≠ 0) (hrest : r.head? ≠ some '\'') :
    singleQuotedFrom false t g p ('\'' :: r) =
      some (g.folded ++ t, p.past ['\''] r) := by
  rw [singleQuotedFrom, Cursor.atDocumentMark_of_column h, if_neg (by decide), if_neg (by decide),
    if_neg (by decide), if_neg (by decide), if_pos rfl]
  cases r with
  | nil => rfl
  | cons c r =>
    have hc : c ≠ '\'' := fun hc => hrest (by rw [hc, List.head?_cons])
    rw [singleQuotedFrom, if_pos rfl, if_neg hc]
    rfl

-- A character that is no blank, a quote written twice.
theorem singleQuotedFrom_char (h : p.column ≠ 0) {c : Char} (hblank : isBlank c = false)
    (hbreak : isBreak c = false) :
    singleQuotedFrom false t g p (singleChar c ++ r) =
      singleQuotedFrom false (c :: (g.folded ++ t)) .none
        (p.past (singleChar c) r) r := by
  unfold singleChar
  by_cases hquote : c = '\''
  · subst hquote
    rw [if_pos rfl, List.cons_append, List.singleton_append, singleQuotedFrom,
      Cursor.atDocumentMark_of_column h, if_neg (by decide), if_neg (by decide), if_neg (by decide),
      if_neg (by decide), if_pos rfl, singleQuotedFrom, if_pos rfl, if_pos rfl]
    rfl
  · rw [if_neg hquote, List.singleton_append, singleQuotedFrom, hblank, hbreak,
      Cursor.atDocumentMark_of_column h, if_neg (by decide), if_neg (by decide), if_neg (by decide),
      if_neg (by decide), if_neg hquote, ← Cursor.past_cons_of_not_isBreak hbreak]
    rfl

theorem singleQuotedFrom_break {c : Char} (h : isBreak c = true) :
    singleQuotedFrom false t g p (c :: r) = singleQuotedFrom false t (g.addBreak c) (p.newLine r) r := by
  rw [singleQuotedFrom, if_neg (by decide), isBlank_of_isBreak h, if_neg (by decide), if_pos h]

theorem singleQuotedFrom_space :
    singleQuotedFrom false t g p (' ' :: r) = singleQuotedFrom false t (g.addBlank ' ') (p.along r) r := by
  rw [singleQuotedFrom, if_neg (by decide), if_pos (by decide)]

-- A text is read back between single quotes.
theorem singleQuotedFrom_written {s : List Char} (hs : KeptBySingle s) (hgap : g.Precedes s)
    (hcolumn : p.column ≠ 0 ∨ g.isBreaks = true) (hindent : 0 < indent)
    (hrest : r.head? ≠ some '\'') :
    singleQuotedFrom false t g p (singleBody indent g.isBreaks s ++ '\'' :: r) =
      some (s.reverse ++ (g.folded ++ t),
        p.past (singleBody indent g.isBreaks s ++ ['\'']) r) := by
  induction s generalizing t g p with
  | nil =>
    obtain ⟨hread, hplace⟩ := singleQuotedFrom_lead (t := t) (r := '\'' :: r) hcolumn hindent
    change singleQuotedFrom false t g p (lead indent g.isBreaks ++ '\'' :: r) = some
      ([] ++ (g.folded ++ t), p.past (lead indent g.isBreaks ++ ['\'']) r)
    rw [hread, singleQuotedFrom_close hplace hrest, Cursor.past_append]
    rfl
  | cons c s ih =>
    rw [List.reverse_cons, List.append_assoc]
    by_cases hbreak : isBreak c = true
    · obtain ⟨hprecedes, hbreaks, hfolded⟩ := hgap.addBreak hbreak hs
      have hnext := ih (t := t) (p := p.newLine (singleBody indent true s ++ '\'' :: r))
        hs.tail hprecedes (.inr hbreaks)
      have hplace := p.past_cons_last (d := c) (singleBody indent true s) '\'' r
      rw [Cursor.step_of_isBreak hbreak] at hplace
      rw [hbreaks, hplace] at hnext
      rw [singleBody, if_pos hbreak, List.cons_append, singleQuotedFrom_break hbreak, hnext, hfolded]
      rfl
    · have hbreak := Bool.eq_false_iff.mpr hbreak
      have hbody : singleBody indent g.isBreaks (c :: s) =
          lead indent g.isBreaks ++ (singleChar c ++ singleBody indent false s) := by
        rw [singleBody, if_neg (by rw [hbreak]; decide), List.append_assoc]
        rfl
      rw [hbody]
      by_cases hspace : c = ' '
      · subst hspace
        obtain ⟨hinline, hprecedes, hbreaks, hfolded⟩ := hgap.addBlank hs
        have hnext := ih (t := t) (p := p.along (singleBody indent false s ++ '\'' :: r))
          hs.tail hprecedes (.inl (Nat.succ_ne_zero p.column))
        have hplace := p.past_cons_last (d := ' ') (singleBody indent false s) '\'' r
        rw [Cursor.step_of_not_isBreak hbreak] at hplace
        rw [hbreaks, hplace] at hnext
        rw [hinline, lead, singleChar, if_neg (by decide), if_neg (by decide), List.nil_append, List.singleton_append,
          List.cons_append, singleQuotedFrom_space, hnext, hfolded]
        rfl
      · have hblank := not_isBlank_of_isVisible (hs.visible c List.mem_cons_self) hspace
        obtain ⟨hlead, hplace⟩ := singleQuotedFrom_lead (t := t)
          (r := singleChar c ++ (singleBody indent false s ++ '\'' :: r)) hcolumn hindent
        have hword := Cursor.column_past_ne_zero hplace (not_isBreak_of_mem_singleChar hbreak)
          (singleBody indent false s ++ '\'' :: r)
        have hnext := ih (t := c :: (g.folded ++ t)) (g := .none) hs.tail trivial (.inl hword)
        have hnone : Gap.none.isBreaks = false := rfl
        rw [hnone] at hnext
        rw [List.append_assoc, List.append_assoc, hlead, singleQuotedFrom_char hplace hblank hbreak, hnext,
          Gap.folded]
        simp only [List.append_assoc, Cursor.past_append, List.cons_append, List.nil_append]

end SingleQuoted

end ChatAssistant.Yaml
