import ChatAssistant.Proofs.Yaml.Lexing
import Mathlib.Data.String.Basic

/-!
# The tokens of strings

A string is written in the first style that keeps it, and is read as one scalar from there.
-/

namespace ChatAssistant.Yaml

/-! ## What the styles keep -/

theorem all_isVisible_of_needsEscape {cs : List Char} (h : needsEscape cs = false) :
    ∀ c ∈ cs, isVisible c = true := by
  simp only [needsEscape, Bool.or_eq_false_iff, Bool.not_eq_false'] at h
  exact List.all_eq_true.mp h.2

-- Of the blanks only the space is written as it is.
theorem any_isBlank_of_any_isSpace {o : Option Char} (hvisible : ∀ c ∈ o, isVisible c = true)
    (h : o.any isSpace = false) : o.any isBlank = false := by
  cases o with
  | none => rfl
  | some c => exact not_isBlank_of_isVisible (hvisible c rfl) (by rintro rfl; cases h)

/-- The text of a plain string: nothing that is read as a number or a word either. -/
structure PlainString (cs : List Char) : Prop extends PlainText cs where
  visible : ∀ c ∈ cs, isVisible c = true
  name : cs.head?.any (fun c => c.isDigit || c == '-' || c == '.' || c == '+') = false

theorem plainString_of_styleOf {s : String} (h : styleOf s = .plain) :
    PlainString s.toList ∧ isAmbiguous s = false := by
  unfold styleOf at h
  dsimp only at h
  split at h
  · split at h <;> cases h
  · split at h
    · next hplain =>
      rw [Bool.and_eq_true, Bool.not_eq_true'] at hplain
      obtain ⟨hsome, hplain⟩ := hplain
      simp only [plainAllowed, Bool.not_eq_true', Bool.or_eq_false_iff] at hplain
      obtain ⟨⟨⟨⟨⟨⟨⟨hescape, hbreak⟩, hfirst⟩, hlast⟩, -⟩, -⟩, hstart⟩, hinner⟩ := hplain
      have hvisible := all_isVisible_of_needsEscape hescape
      refine ⟨⟨⟨?_, ?_, hstart, hinner, ?_, ?_⟩, hvisible, ?_⟩, hsome⟩
      · intro hnil
        rw [isAmbiguous, hnil] at hsome
        cases hsome
      · intro c hc
        have := List.any_eq_false.mp hbreak c hc
        rw [isAnyBreak_eq_isBreak (hvisible c hc)] at this
        exact Bool.eq_false_iff.mpr this
      · exact any_isBlank_of_any_isSpace (fun c hc => hvisible c (List.mem_of_mem_head? hc)) hfirst
      · exact any_isBlank_of_any_isSpace (fun c hc => hvisible c (List.mem_of_mem_getLast? hc)) hlast
      · rw [isAmbiguous] at hsome
        cases hlist : s.toList with
        | nil => rfl
        | cons c cs =>
          simp only [hlist, Bool.or_eq_false_iff] at hsome
          simp [hsome.1]
    · split at h <;> cases h

theorem keptBySingle_of_styleOf {s : String} (h : styleOf s = .single) : KeptBySingle s.toList := by
  unfold styleOf at h
  dsimp only at h
  split at h
  · split at h <;> cases h
  · next hfeed =>
    split at h
    · cases h
    · split at h
      · next hsingle =>
        simp only [singleAllowed, Bool.not_eq_true', Bool.or_eq_false_iff] at hsingle
        obtain ⟨hescape, hbehind⟩ := hsingle
        have hvisible := all_isVisible_of_needsEscape hescape
        simp only [needsEscape, Bool.or_eq_false_iff] at hescape
        exact ⟨hvisible, by simpa using hfeed, hescape.1, hbehind⟩
      · cases h

theorem keptByLiteral_of_styleOf {s : String} (h : styleOf s = .literal) : KeptByLiteral s.toList := by
  unfold styleOf at h
  dsimp only at h
  split at h
  · next hfeed =>
    split at h
    · next hliteral =>
      simp only [literalAllowed, Bool.not_eq_true', Bool.or_eq_false_iff] at hliteral
      exact ⟨all_isVisible_of_needsEscape hliteral.1, by simpa using hfeed⟩
    · cases h
  · split at h
    · cases h
    · split at h <;> cases h

/-! ## A string where a value stands -/

/-- The token of a string. -/
def stringToken (s : String) : Token := .scalar (styleOf s == .plain) s

namespace Lexer

variable {s : Lexer} {n outer k : Nat} {rest : List Char}

-- A scalar ends with its line.
theorem Spot.leads_line {c : Char} {cs : List Char} {token : Token}
    (h : s.Spot n (c :: (cs ++ '\n' :: (spaces k ++ rest)))) (hn : s.indent < n) (hcontent : StartsContent rest)
    (hfetch : s.fetch c (cs ++ '\n' :: (spaces k ++ rest)) =
      some (s.behind (s.cursor.past (c :: cs) ('\n' :: (spaces k ++ rest))) false token)) :
    ∃ p : Cursor, p.rest = rest ∧ p.column = k ∧ Leads s (s.onto p true [token]) := by
  have hrest : (s.cursor.past (c :: cs) ('\n' :: (spaces k ++ rest))).rest = '\n' :: (spaces k ++ rest) :=
    Cursor.rest_past h.rest
  have hline : s.cursor.line ≤ (s.cursor.past (c :: cs) ('\n' :: (spaces k ++ rest))).line := by
    rw [Cursor.line_past]
    omega
  revert hfetch hrest hline
  generalize s.cursor.past (c :: cs) ('\n' :: (spaces k ++ rest)) = p
  intro hfetch hrest hline
  have hnext : (p.past ('\n' :: spaces k) rest).rest = rest := Cursor.rest_past hrest
  have hlater := p.line_lt_past_newLine k rest
  refine ⟨p.past ('\n' :: spaces k) rest, hnext, p.column_past_newLine k rest, ?_⟩
  refine (leads_of_fetch h.prepare h.rest hfetch ?_).trans
    (h.leads_behind hn (a := false) (b := true) ?_ (by omega) ?_ (hnext.symm ▸ hcontent))
  · change p.rest.length ≤ _
    rw [hrest, List.length_append]
    omega
  · rw [hrest]
    exact blankFrom_newLine hcontent
  · rw [hnext, hrest, List.length_cons, List.length_append]
    omega

-- A plain scalar ends with its line as well, and the reader goes on to the next content.
theorem Spot.leads_plain {cs : List Char} (hcs : PlainText cs)
    (h : s.Spot n (cs ++ '\n' :: (spaces k ++ rest))) (hindent : s.indent = outer) (hn : outer < n)
    (hk : k ≤ outer) (hcontent : StartsContent rest) :
    ∃ p : Cursor, p.rest = rest ∧ p.column = k ∧
      Leads s (s.onto p true [.scalar true (String.ofList cs)]) := by
  cases cs with
  | nil => exact absurd rfl hcs.ne_nil
  | cons c cs =>
    rw [List.cons_append] at h
    have hrest : (s.cursor.past (c :: cs) ('\n' :: (spaces k ++ rest))).rest = '\n' :: (spaces k ++ rest) :=
      Cursor.rest_past h.rest
    have hline : s.cursor.line ≤ (s.cursor.past (c :: cs) ('\n' :: (spaces k ++ rest))).line := by
      rw [Cursor.line_past]
      omega
    have hfetch := fun q => h.fetch_plain hcs (.inr (by omega)) (b := true) (p := q)
    revert hfetch hrest hline
    generalize s.cursor.past (c :: cs) ('\n' :: (spaces k ++ rest)) = p
    intro hrest hline hfetch
    have hnext : (p.past ('\n' :: spaces k) rest).rest = rest := Cursor.rest_past hrest
    have hlater := p.line_lt_past_newLine k rest
    refine ⟨p.past ('\n' :: spaces k) rest, hnext, p.column_past_newLine k rest, ?_⟩
    refine (leads_of_fetch h.prepare h.rest (hfetch _ (plainFrom_lineEnd hcontent (by omega))) ?_).trans
      (h.leads_behind (by omega) (a := true) (b := true) ?_ (by omega) (Nat.le_refl _) (hnext.symm ▸ hcontent))
    · change (p.past ('\n' :: spaces k) rest).rest.length ≤ _
      rw [hnext, List.length_append, List.length_cons, List.length_append]
      omega
    · rw [hnext]
      exact blankFrom_of_startsContent hcontent

-- A string is read as one scalar, in whatever style it is written.
theorem Spot.leads_string {text : String} (h : s.Spot n (writeString (outer + 2) text ++ (spaces k ++ rest)))
    (hindent : s.indent = outer) (hn : outer < n) (hk : k ≤ outer) (hcontent : StartsContent rest) :
    ∃ p : Cursor, p.rest = rest ∧ p.column = k ∧ Leads s (s.onto p true [stringToken text]) := by
  have hlt : s.indent < n := by omega
  have htoken : ∀ b, (styleOf text == .plain) = b →
      stringToken text = .scalar b (String.ofList text.toList) := by
    intro b hb
    rw [stringToken, hb, String.ofList_toList]
  rw [writeString] at h
  cases hstyle : styleOf text with
  | plain =>
    rw [htoken true (by rw [hstyle]; rfl)]
    simp only [hstyle, inlineString, List.append_assoc, List.singleton_append] at h
    exact h.leads_plain (plainString_of_styleOf hstyle).1.toPlainText hindent hn hk hcontent
  | single =>
    rw [htoken false (by rw [hstyle]; rfl)]
    have hspot : s.Spot n ('\'' :: (singleBody (outer + 2) false text.toList ++
        '\'' :: '\n' :: (spaces k ++ rest))) := by simpa [hstyle, inlineString] using h
    have hfetch := hspot.fetch_single (keptBySingle_of_styleOf hstyle) (Nat.succ_pos _) (by simp)
    have hline : s.Spot n ('\'' :: ((singleBody (outer + 2) false text.toList ++ ['\'']) ++
        '\n' :: (spaces k ++ rest))) := by rwa [List.append_assoc]
    refine hline.leads_line hlt hcontent ?_
    rw [List.append_assoc]
    exact hfetch
  | double =>
    rw [htoken false (by rw [hstyle]; rfl)]
    have hspot : s.Spot n ('"' :: (text.toList.flatMap doubleChar ++ '"' :: '\n' :: (spaces k ++ rest))) := by
      simpa [hstyle, inlineString] using h
    have hfetch := hspot.fetch_double
    have hline : s.Spot n ('"' :: ((text.toList.flatMap doubleChar ++ ['"']) ++
        '\n' :: (spaces k ++ rest))) := by rwa [List.append_assoc]
    refine hline.leads_line hlt hcontent ?_
    rw [List.append_assoc]
    exact hfetch
  | literal =>
    rw [htoken false (by rw [hstyle]; rfl)]
    simp only [hstyle, List.append_assoc, List.cons_append] at h
    obtain ⟨p, hrest, hcolumn, hfetch⟩ := h.fetch_literal (keptByLiteral_of_styleOf hstyle) hindent
      (by omega) hcontent
    refine ⟨p, hrest, hcolumn, leads_of_fetch h.prepare h.rest hfetch ?_⟩
    rw [onto_cursor, hrest]
    simp only [List.length_append, List.length_cons]
    omega

end Lexer

/-! ## A string in front of a colon -/

theorem length_toList_le (s : String) : s.toList.length ≤ s.utf8ByteSize := by
  have hlength : ∀ cs : List Char, cs.length ≤ String.utf8Len cs := by
    intro cs
    induction cs with
    | nil => exact Nat.le_refl 0
    | cons c cs ih =>
      have := c.utf8Size_pos
      rw [List.length_cons, String.utf8Len_cons]
      omega
  rw [← s.ofList_toList, String.utf8ByteSize_ofList, s.ofList_toList]
  exact hlength s.toList

theorem length_doubleChar_le (c : Char) : (doubleChar c).length ≤ 6 := by
  have hhex : ∀ n count, (hexOf n count).length = count := by
    intro n count
    induction count generalizing n with
    | zero => rfl
    | succ count ih => rw [hexOf, List.length_append, ih]; rfl
  unfold doubleChar
  split
  case h_15 =>
    split
    · simp
    · next hvisible =>
      split
      · simp [hhex]
      · split
        · simp [hhex]
        · next hshort hlong =>
          -- Beyond sixteen bits every character is visible.
          refine absurd ?_ hvisible
          simp [isVisible]
          omega
  all_goals decide

theorem length_singleBody_le (indent : Nat) {cs : List Char} (h : ∀ c ∈ cs, isBreak c = false) :
    (singleBody indent false cs).length ≤ 2 * cs.length := by
  induction cs with
  | nil => exact Nat.le_refl 0
  | cons c cs ih =>
    rw [List.forall_mem_cons] at h
    have hrest := ih h.2
    rw [singleBody, h.1, if_neg (by decide), if_neg (by decide), List.nil_append, List.length_append,
      List.length_cons]
    split <;> simp only [List.length_cons, List.length_nil] <;> omega

theorem not_isBreak_of_mem_singleBody {indent : Nat} {cs : List Char} (h : ∀ c ∈ cs, isBreak c = false) :
    ∀ c ∈ singleBody indent false cs, isBreak c = false := by
  induction cs with
  | nil => exact fun c hc => by cases hc
  | cons c cs ih =>
    rw [List.forall_mem_cons] at h
    rw [singleBody, h.1, if_neg (by decide), if_neg (by decide), List.nil_append]
    intro d hd
    rcases List.mem_append.mp hd with hd | hd
    · exact not_isBreak_of_mem_singleChar h.1 d hd
    · exact ih h.2 d hd

theorem not_isBreak_of_mem_doubleChar (c : Char) : ∀ d ∈ doubleChar c, isBreak d = false := by
  by_cases hspace : c = ' '
  · rw [hspace]
    exact eq_false_of_mem rfl
  · exact (doubleQuotedFrom_char (t := []) (g := .none) (p := ⟨[], 0, 0, 1⟩) (r := []) (by decide) hspace).2

theorem length_flatMap_doubleChar_le (cs : List Char) : (cs.flatMap doubleChar).length ≤ 6 * cs.length := by
  induction cs with
  | nil => exact Nat.le_refl 0
  | cons c cs ih =>
    have hchar := length_doubleChar_le c
    rw [List.flatMap_cons, List.length_append, List.length_cons]
    omega

-- A key in front of its colon is on one line and not long.
theorem inlineString_of_isSimpleKey {key : String} (h : isSimpleKey key = true) (indent : Nat) :
    (∀ c ∈ inlineString indent (styleOf key) key, isBreak c = false) ∧
      (inlineString indent (styleOf key) key).length ≤ 770 := by
  rw [isSimpleKey, Bool.and_eq_true, Bool.not_eq_true', decide_eq_true_eq, keyLimit] at h
  obtain ⟨hline, hsize⟩ := h
  have hlength := length_toList_le key
  have hbreak : ∀ c ∈ key.toList, isBreak c = false := fun c hc =>
    Bool.eq_false_iff.mpr fun hc' => List.any_eq_false.mp hline c hc (isAnyBreak_of_isBreak hc')
  cases hstyle : styleOf key with
  | plain | literal =>
    refine ⟨hbreak, ?_⟩
    change key.toList.length ≤ 770
    omega
  | single =>
    have hbody := length_singleBody_le indent hbreak
    refine ⟨?_, ?_⟩
    · rw [inlineString, List.forall_mem_cons, List.forall_mem_append]
      exact ⟨rfl, not_isBreak_of_mem_singleBody hbreak, eq_false_of_mem rfl⟩
    · simp only [inlineString, List.length_cons, List.length_append, List.length_nil]
      omega
  | double =>
    have hbody := length_flatMap_doubleChar_le key.toList
    refine ⟨?_, ?_⟩
    · rw [inlineString, List.forall_mem_cons, List.forall_mem_append]
      refine ⟨rfl, fun d hd => ?_, eq_false_of_mem rfl⟩
      obtain ⟨c, -, hd⟩ := List.mem_flatMap.mp hd
      exact not_isBreak_of_mem_doubleChar c d hd
    · simp only [inlineString, List.length_cons, List.length_append, List.length_nil]
      omega

theorem ne_literal_of_isSimpleKey {key : String} (h : isSimpleKey key = true) : styleOf key ≠ .literal := by
  intro hstyle
  have hfeed := (keptByLiteral_of_styleOf hstyle).feed
  rw [isSimpleKey, Bool.and_eq_true, Bool.not_eq_true'] at h
  exact List.any_eq_false.mp h.1 '\n' hfeed rfl

namespace Lexer

variable {s : Lexer} {n : Nat} {rest : List Char}

-- A key is fetched as one scalar, whatever its style.
theorem Spot.fetch_simpleKey {key : String} (hsimple : isSimpleKey key = true) {indent : Nat}
    (hindent : 0 < indent) (h : s.Spot n (inlineString indent (styleOf key) key ++ ':' :: rest))
    (hrest : endsWord rest = true) :
    ∃ c cs, inlineString indent (styleOf key) key = c :: cs ∧
      s.fetch c (cs ++ ':' :: rest) =
        some (s.behind (s.cursor.past (c :: cs) (':' :: rest)) false (stringToken key)) := by
  have htoken : ∀ b, (styleOf key == .plain) = b →
      stringToken key = .scalar b (String.ofList key.toList) := by
    intro b hb
    rw [stringToken, hb, String.ofList_toList]
  cases hstyle : styleOf key with
  | literal => exact absurd hstyle (ne_literal_of_isSimpleKey hsimple)
  | plain =>
    obtain ⟨hplain, -⟩ := plainString_of_styleOf hstyle
    rw [htoken true (by rw [hstyle]; rfl)]
    simp only [hstyle, inlineString] at h ⊢
    revert hplain h
    cases key.toList with
    | nil => exact fun hplain => absurd rfl hplain.ne_nil
    | cons c cs =>
      intro hplain h
      have hname := hplain.name
      simp only [List.head?_cons, Option.any_some, Bool.or_eq_false_iff, beq_eq_false_iff_ne] at hname
      exact ⟨c, cs, rfl, Spot.fetch_plain hplain.toPlainText h (.inl ⟨hname.1.1.2, hname.1.2⟩)
        (plainFrom_key hrest)⟩
  | single =>
    rw [htoken false (by rw [hstyle]; rfl)]
    rw [hstyle, inlineString, List.cons_append, List.append_assoc] at h
    refine ⟨'\'', singleBody indent false key.toList ++ ['\''], rfl, ?_⟩
    rw [List.append_assoc]
    exact h.fetch_single (keptBySingle_of_styleOf hstyle) hindent (by simp)
  | double =>
    rw [htoken false (by rw [hstyle]; rfl)]
    rw [hstyle, inlineString, List.cons_append, List.append_assoc] at h
    refine ⟨'"', key.toList.flatMap doubleChar ++ ['"'], rfl, ?_⟩
    rw [List.append_assoc]
    exact h.fetch_double

-- A key in front of its colon.
theorem Spot.leads_key {key : String} (hsimple : isSimpleKey key = true) {indent : Nat} (hindent : 0 < indent)
    (h : s.Spot n (inlineString indent (styleOf key) key ++ ':' :: rest)) (hrest : endsWord rest = true)
    (hallowed : s.keyAllowed = true) :
    ∃ p : Cursor, p.rest = rest ∧ n < p.column ∧
      Leads s ((s.opened n .blockMapping).onto p false [.key, stringToken key, .value]) := by
  obtain ⟨hline, hlength⟩ := inlineString_of_isSimpleKey hsimple indent
  obtain ⟨c, cs, hcs, hfetch⟩ := h.fetch_simpleKey hsimple hindent hrest
  rw [hcs] at h hline hlength
  have hp : (s.cursor.past (c :: cs) (':' :: rest)).rest = ':' :: rest := Cursor.rest_past h.rest
  have hnumber : (s.cursor.past (c :: cs) (':' :: rest)).line = s.cursor.line := by
    rw [Cursor.line_past, List.countP_eq_zero.mpr fun d hd => Bool.eq_false_iff.mp (hline d hd)]
    rfl
  have hindex : (s.cursor.past (c :: cs) (':' :: rest)).index ≤ s.cursor.index + 1024 := by
    rw [Cursor.index_past]
    omega
  have hcolumn : n < (s.cursor.past (c :: cs) (':' :: rest)).column := by
    rw [Cursor.column_past, Cursor.columnAfter_of_line hline, h.column, List.length_cons]
    omega
  refine ⟨(s.cursor.past (c :: cs) (':' :: rest)).skip 1, ?_, ?_, ?_⟩
  · rw [Cursor.skip, hp]
    rfl
  · rw [Cursor.skip]
    exact Nat.lt_succ_of_lt hcolumn
  · refine (leads_of_fetch h.prepare h.rest hfetch ?_).trans
      (h.leads_colon hallowed hp hrest hnumber hindex hcolumn)
    change (s.cursor.past (c :: cs) (':' :: rest)).rest.length ≤ (cs ++ ':' :: rest).length
    rw [hp, List.length_append]
    omega

end Lexer

end ChatAssistant.Yaml
