import ChatAssistant.Proofs.Yaml.Plain

/-!
# Reading literal blocks back

A literal block keeps the line ends of its text.  The reader collects the text of the lines, the end of the
last line with content, and the line ends behind it; what becomes of these at the end is told by a sign.
-/

namespace ChatAssistant.Yaml

/-- A text that a literal block keeps. -/
structure KeptByLiteral (s : List Char) : Prop where
  visible : ∀ c ∈ s, isVisible c = true
  feed : '\n' ∈ s

theorem isAnyBreak_eq_isBreak {c : Char} (h : isVisible c = true) : isAnyBreak c = isBreak c := by
  have hreturn : c ≠ '\r' := by
    rintro rfl
    exact absurd h (by decide)
  have hnext : c ≠ '\u0085' := by
    rintro rfl
    exact absurd h (by decide)
  rw [isAnyBreak, beq_eq_false_iff_ne.mpr hreturn, beq_eq_false_iff_ne.mpr hnext, Bool.or_false, Bool.or_false]

/-! ## The signs -/

/-- What becomes of the line ends at the end of a text. -/
def chompingOf (s : List Char) : Chomping :=
  match s.reverse with
  | [] => .strip
  | [c] => if isAnyBreak c then .keep else .strip
  | c :: d :: _ => if !isAnyBreak c then .strip else if isAnyBreak d then .keep else .clip

/-- The sign of a chomping. -/
def Chomping.sign : Chomping → List Char
  | strip => ['-']
  | clip => []
  | keep => ['+']

/-- The text starts with white space, so that its indentation has to be stated. -/
def startsBlank (s : List Char) : Bool := s.head?.any fun c => isSpace c || isAnyBreak c

theorem literalSigns_eq (s : List Char) :
    literalSigns s = (if startsBlank s then ['2'] else []) ++ (chompingOf s).sign := by
  unfold literalSigns chompingOf startsBlank
  dsimp only
  congr 1
  match s.reverse with
  | [] => rfl
  | [c] => cases h : isAnyBreak c <;> simp [h, Chomping.sign]
  | c :: d :: _ => cases h : isAnyBreak c <;> cases h' : isAnyBreak d <;> simp [h, h', Chomping.sign]

theorem blockHeader?_signs (blank : Bool) (chomping : Chomping) (r : List Char) :
    blockHeader? ((if blank then ['2'] else []) ++ chomping.sign ++ '\n' :: r) =
      some (⟨chomping, if blank then some 2 else none⟩, '\n' :: r) := by
  cases blank <;> cases chomping <;> rfl

/-! ## The state of the reader -/

/-- The reader has read this text. -/
structure BlockState.Holds (b : BlockState) (done : List Char) : Prop where
  whole : b.blankEnds ++ (b.lineEnd ++ b.text) = done.reverse
  inLine : b.inLine = done.getLast?.any fun c => !isBreak c
  ends : b.inLine = true → b.lineEnd = [] ∧ b.blankEnds = []
  single : ∀ front x y, done = front ++ [x, y] → isBreak x = false → b.blankEnds = []

/-- The column of the content is known, or the next line with content will show it. -/
def BlockState.Finds (b : BlockState) (column least : Nat) (r : List Char) : Prop :=
  b.indent = some column ∨
    (b.indent = none ∧ b.inLine = false ∧ b.maxIndent = 0 ∧ least ≤ column ∧
      ∃ c, r.head? = some c ∧ isBlank c = false ∧ isBreak c = false)

section

variable {chomping : Chomping} {least column : Nat} {b : BlockState} {p : Cursor}
  {r done : List Char}

theorem BlockState.Finds.indent_of_inLine (h : b.Finds column least r) (hin : b.inLine = true) :
    b.indent = some column :=
  h.resolve_right fun ⟨_, hout, _⟩ => by
    rw [hin] at hout
    cases hout

theorem BlockState.Finds.indent_of_isBreak {c : Char} (h : b.Finds column least (c :: r))
    (hc : isBreak c = true) : b.indent = some column :=
  h.resolve_right fun ⟨_, _, _, _, d, hd, _, hbreak⟩ => by
    rw [List.head?_cons, Option.some.injEq] at hd
    rw [← hd, hc] at hbreak
    cases hbreak

theorem BlockState.Finds.eq_of_indent {known : Nat} (h : b.Finds column least r)
    (hknown : b.indent = some known) : column = known := by
  rcases h with hindent | ⟨hindent, -⟩
  · exact Option.some.inj (hindent.symm.trans hknown)
  · rw [hindent] at hknown
    cases hknown

theorem getLast?_append_any (done : List Char) (c : Char) (p : Char → Bool) :
    ((done ++ [c]).getLast?.any p) = p c := by
  rw [List.getLast?_append, List.getLast?_singleton]
  rfl

-- A character inside a line.
theorem blockFrom_inLine {c : Char} (hin : b.inLine = true) (hc : isBreak c = false) :
    blockFrom false chomping least b p (c :: r) =
      blockFrom false chomping least { b with text := c :: b.text } (p.along r) r := by
  rw [blockFrom, if_pos hin, if_neg (by rw [hc]; decide)]

theorem BlockState.Holds.inLine_char (h : b.Holds done) (hin : b.inLine = true) {c : Char}
    (hc : isBreak c = false) : { b with text := c :: b.text : BlockState }.Holds (done ++ [c]) := by
  obtain ⟨hend, hblank⟩ := h.ends hin
  have hwhole := h.whole
  rw [hend, hblank] at hwhole
  refine ⟨?_, ?_, fun _ => ⟨hend, hblank⟩, fun _ _ _ _ _ => hblank⟩
  · change b.blankEnds ++ (b.lineEnd ++ c :: b.text) = _
    rw [hend, hblank, List.reverse_append, ← hwhole]
    rfl
  · rw [getLast?_append_any, hc]
    exact hin

-- The end of a line with content.
theorem blockFrom_lineEnd {c : Char} (hin : b.inLine = true) (hc : isBreak c = true) :
    blockFrom false chomping least b p (c :: r) =
      blockFrom false chomping least { b with lineEnd := [c], inLine := false } (p.newLine r)
        r := by
  rw [blockFrom, if_pos hin, if_pos hc]

theorem BlockState.Holds.lineEnd_char (h : b.Holds done) (hin : b.inLine = true) {c : Char}
    (hc : isBreak c = true) :
    { b with lineEnd := [c], inLine := false : BlockState }.Holds (done ++ [c]) := by
  obtain ⟨hend, hblank⟩ := h.ends hin
  have hwhole := h.whole
  rw [hend, hblank] at hwhole
  refine ⟨?_, ?_, (fun hin => by cases hin), fun _ _ _ _ _ => hblank⟩
  · change b.blankEnds ++ ([c] ++ b.text) = _
    rw [hblank, List.reverse_append, ← hwhole]
    rfl
  · rw [getLast?_append_any, hc]
    rfl

-- An empty line.
theorem blockFrom_blankEnd {c : Char} (hout : b.inLine = false) (hc : isBreak c = true) :
    blockFrom false chomping least b p (c :: r) =
      blockFrom false chomping least
        { b with blankEnds := c :: b.blankEnds, maxIndent := max b.maxIndent p.column }
        (p.newLine r) r := by
  have hspace : (c == ' ') = false := by
    refine beq_eq_false_iff_ne.mpr ?_
    rintro rfl
    cases hc
  have htab : (c == '\t') = false := by
    refine beq_eq_false_iff_ne.mpr ?_
    rintro rfl
    cases hc
  rw [blockFrom, hout, if_neg (by decide)]
  simp only [hspace, htab, Bool.and_false, Bool.false_eq_true, if_false, hc, if_true]

theorem BlockState.Holds.blankEnd_char (h : b.Holds done) (hout : b.inLine = false) {c : Char}
    (hc : isBreak c = true) (n : Nat) :
    { b with blankEnds := c :: b.blankEnds, maxIndent := n : BlockState }.Holds (done ++ [c]) := by
  refine ⟨?_, ?_, fun hin => ?_, fun front x y hdone hx => ?_⟩
  · change c :: b.blankEnds ++ (b.lineEnd ++ b.text) = _
    rw [List.reverse_append, ← h.whole]
    rfl
  · rw [getLast?_append_any, hc]
    exact hout
  · exact absurd hin (Bool.eq_false_iff.mp hout)
  · -- Before an empty line there is the end of a line, not content.
    have hlast : done = front ++ [x] := by
      have heq : done ++ [c] = (front ++ [x]) ++ [y] := by rw [hdone, List.append_assoc]; rfl
      exact (List.append_inj' heq rfl).1
    have hin := h.inLine
    rw [hlast, getLast?_append_any, hx, hout] at hin
    cases hin

-- The indentation of a line.
theorem blockFrom_spaces {n : Nat} (hout : b.inLine = false)
    (hindent : ∀ known, b.indent = some known → p.column + n ≤ known) :
    blockFrom false chomping least b p (spaces n ++ r) =
      blockFrom false chomping least b (p.past (spaces n) r) r := by
  induction n generalizing p with
  | zero => rfl
  | succ n ih =>
    have hbefore : b.indent.all (fun known => decide (p.column < known)) = true := by
      refine (Option.all_eq_true _ _).mpr fun known hknown => decide_eq_true ?_
      have := hindent known hknown
      omega
    rw [spaces, List.replicate_succ, List.cons_append, blockFrom, hout, if_neg (by decide),
      if_pos (by rw [hbefore]; decide)]
    refine ih (p := p.along _) fun known hknown => ?_
    have := hindent known hknown
    change p.column + 1 + n ≤ known
    omega

-- The first character of a line.
theorem blockFrom_open {c : Char} (hout : b.inLine = false) (hc : isBreak c = false)
    {s : List Char}
    (hcolumn : p.column = column) (hfinds : b.Finds column least (c :: s)) :
    blockFrom false chomping least b p (c :: r) =
      blockFrom false chomping least (b.openLine false column c) (p.along r) r := by
  have hsettled : b.settledIndent least p.column = column := by
    unfold BlockState.settledIndent
    rcases hfinds with hknown | ⟨hunknown, -, hmax, hleast, -⟩
    · rw [hknown]
    · rw [hunknown, hmax, hcolumn]
      simp only [Nat.zero_max]
      omega
  have hskip : ∀ d, isBlank d = true →
      (b.indent.all (fun n => decide (p.column < n)) && c == d) = false := by
    intro d hd
    rcases hfinds with hknown | ⟨-, -, -, -, e, he, hblank, -⟩
    · rw [hknown, Option.all_some, hcolumn]
      simp
    · rw [List.head?_cons, Option.some.injEq] at he
      subst he
      have hne : (c == d) = false := by
        refine beq_eq_false_iff_ne.mpr ?_
        rintro rfl
        rw [hblank] at hd
        cases hd
      rw [hne, Bool.and_false]
  rw [blockFrom, hout, if_neg (by decide)]
  simp only [hskip ' ' rfl, hskip '\t' rfl, Bool.false_eq_true, if_false, hc]
  rw [hsettled, if_pos hcolumn]

theorem BlockState.Holds.open_char (h : b.Holds done) {c : Char} (hc : isBreak c = false) :
    (b.openLine false column c).Holds (done ++ [c]) := by
  refine ⟨?_, ?_, fun _ => ⟨rfl, rfl⟩, fun _ _ _ _ _ => rfl⟩
  · change [] ++ ([] ++ c :: (b.blankEnds ++ b.lineEnd ++ b.text)) = _
    rw [List.reverse_append, ← h.whole, List.append_assoc]
    rfl
  · rw [getLast?_append_any, hc]
    rfl

/-! ## The end -/

-- What stays of the line ends behind the text are those of the text.
theorem BlockState.Holds.finish_eq (h : b.Holds done) (hdone : done ≠ []) (hout : b.inLine = false)
    (hvisible : ∀ c ∈ done, isVisible c = true) : b.finish (chompingOf done) = done.reverse := by
  have hlast : done.reverse.head?.any (fun c => !isBreak c) = false := by
    rw [List.head?_reverse, ← h.inLine, hout]
  have hvisible : ∀ c ∈ done.reverse, isVisible c = true := fun c hc => hvisible c (List.mem_reverse.mp hc)
  have hwhole := h.whole
  unfold chompingOf
  match hrev : done.reverse with
  | [] => exact absurd (List.reverse_eq_nil_iff.mp hrev) hdone
  | [c] =>
    rw [hrev] at hlast hvisible hwhole
    have hc : isAnyBreak c = true := by
      rw [isAnyBreak_eq_isBreak (hvisible c List.mem_cons_self)]
      simpa using hlast
    simp only [hc, if_true]
    exact (List.append_assoc ..).trans hwhole
  | c :: d :: front =>
    rw [hrev] at hlast hvisible hwhole
    have hc : isAnyBreak c = true := by
      rw [isAnyBreak_eq_isBreak (hvisible c List.mem_cons_self)]
      simpa using hlast
    have hd := isAnyBreak_eq_isBreak (hvisible d (List.mem_cons_of_mem c List.mem_cons_self))
    simp only [hc, hd, Bool.not_true, Bool.false_eq_true, if_false]
    cases hbreak : isBreak d with
    | true => exact (List.append_assoc ..).trans hwhole
    | false =>
      have hdone : done = front.reverse ++ [d, c] := by
        rw [← List.reverse_reverse done, hrev]
        simp
      have hblank := h.single _ _ _ hdone hbreak
      rw [hblank, List.nil_append] at hwhole
      exact hwhole

theorem BlockState.Holds.text_eq (h : b.Holds done) (hin : b.inLine = true) : b.text = done.reverse := by
  obtain ⟨hend, hblank⟩ := h.ends hin
  have hwhole := h.whole
  rwa [hend, hblank] at hwhole

theorem chompingOf_of_inLine (h : b.Holds done) (hin : b.inLine = true)
    (hvisible : ∀ c ∈ done, isVisible c = true) : chompingOf done = .strip := by
  have hlast : done.reverse.head?.any (fun c => !isBreak c) = true := by
    rw [List.head?_reverse, ← h.inLine, hin]
  have hvisible : ∀ c ∈ done.reverse, isVisible c = true := fun c hc => hvisible c (List.mem_reverse.mp hc)
  unfold chompingOf
  match hrev : done.reverse with
  | [] => rfl
  | [c] | c :: d :: front =>
    rw [hrev] at hlast hvisible
    have hc : isAnyBreak c = false := by
      rw [isAnyBreak_eq_isBreak (hvisible c List.mem_cons_self)]
      simpa using hlast
    simp [hc]

-- A block ends with its line, where the next one is not indented as far.
theorem blockFrom_end {k : Nat} (hout : b.inLine = false) (hindent : b.indent = some column)
    (hplace : p.column = 0) (hk : k < column) (hrest : StartsContent r) :
    blockFrom false chomping least b p (spaces k ++ r) =
      some (b.finish chomping, p.past (spaces k) r) := by
  have hcolumn : (p.past (spaces k) r).column = k := by
    rw [Cursor.column_past, hplace, Cursor.columnAfter_of_line not_isBreak_of_mem_spaces, spaces,
      List.length_replicate, Nat.zero_add]
  rw [blockFrom_spaces hout fun known hknown => by
    rw [hindent, Option.some.injEq] at hknown
    omega]
  cases r with
  | nil => rfl
  | cons c r =>
    obtain ⟨hblank, hbreak, -, -⟩ := hrest
    simp only [isBlank, Bool.or_eq_false_iff] at hblank
    rw [blockFrom, hout, if_neg (by decide)]
    simp only [hblank.1, hblank.2, hbreak, Bool.and_false, Bool.false_eq_true, if_false]
    simp only [BlockState.settledIndent, hindent, hcolumn, if_neg (Nat.ne_of_lt hk)]

/-! ## The body -/

-- The lines of a text are read one after another.
theorem blockFrom_body {s : List Char} {k : Nat} (h : b.Holds done) (hsome : done ++ s ≠ [])
    (hvisible : ∀ c ∈ done ++ s, isVisible c = true)
    (hplace : b.inLine = false → p.column = 0) (hfinds : b.Finds column least s)
    (hk : k < column) (hrest : StartsContent r) :
    blockFrom false (chompingOf (done ++ s)) least b p
        (literalBody column (!b.inLine) s ++ (spaces k ++ r)) =
      some ((done ++ s).reverse,
        (p.past (literalBody column (!b.inLine) s) (spaces k ++ r)).past (spaces k) r) := by
  induction s generalizing b p done with
  | nil =>
    rw [List.append_nil] at hsome hvisible ⊢
    have hindent : b.indent = some column := by
      rcases hfinds with hindent | ⟨-, -, -, -, c, hc, -⟩
      · exact hindent
      · cases hc
    cases hin : b.inLine with
    | true =>
      rw [chompingOf_of_inLine h hin hvisible, literalBody, if_neg (by decide), List.singleton_append,
        blockFrom_lineEnd hin rfl]
      refine (blockFrom_end (b := { b with lineEnd := ['\n'], inLine := false }) rfl hindent rfl hk hrest).trans ?_
      exact congrArg some (Prod.ext (h.text_eq hin) rfl)
    | false =>
      rw [literalBody, if_pos (by decide), List.nil_append, blockFrom_end hin hindent (hplace hin) hk hrest,
        h.finish_eq hsome hin hvisible]
      rfl
  | cons c s ih =>
    have hassoc : done ++ c :: s = (done ++ [c]) ++ s := by rw [List.append_assoc, List.singleton_append]
    rw [hassoc] at hsome hvisible ⊢
    rw [literalBody]
    by_cases hc : isBreak c = true
    · rw [if_pos hc, List.cons_append, ← Cursor.past_cons_of_isBreak hc]
      cases hin : b.inLine with
      | true =>
        rw [blockFrom_lineEnd hin hc]
        exact ih (p := p.newLine _) (h.lineEnd_char hin hc) hsome hvisible (fun _ => rfl)
          (.inl (hfinds.indent_of_inLine hin))
      | false =>
        rw [blockFrom_blankEnd hin hc]
        have hread := ih (p := p.newLine (literalBody column true s ++ (spaces k ++ r)))
          (h.blankEnd_char hin hc (max b.maxIndent p.column)) hsome hvisible (fun _ => rfl)
          (.inl (hfinds.indent_of_isBreak hc))
        rw [hin] at hread ⊢
        exact hread
    · have hbreak := Bool.eq_false_iff.mpr hc
      rw [if_neg hc]
      cases hin : b.inLine with
      | true =>
        rw [Bool.not_true, if_neg (by decide), List.nil_append, List.cons_append,
          ← Cursor.past_cons_of_not_isBreak hbreak, blockFrom_inLine hin hbreak]
        have hread := ih (p := p.along (literalBody column false s ++ (spaces k ++ r)))
          (h.inLine_char hin hbreak) hsome hvisible (fun hout => absurd hin (Bool.eq_false_iff.mp hout))
          (.inl (hfinds.indent_of_inLine hin))
        rw [hin] at hread ⊢
        exact hread
      | false =>
        have hcolumn : ∀ r, (p.past (spaces column) r).column = column := fun r => by
          rw [Cursor.column_past, hplace hin, Cursor.columnAfter_of_line not_isBreak_of_mem_spaces, spaces,
            List.length_replicate, Nat.zero_add]
        have hknown : ∀ known, b.indent = some known → p.column + column ≤ known := by
          intro known hknown
          rw [hplace hin, Nat.zero_add]
          exact (hfinds.eq_of_indent hknown).le
        rw [Bool.not_false, if_pos rfl, List.append_assoc (spaces column), blockFrom_spaces hin hknown,
          List.cons_append, blockFrom_open hin hbreak (hcolumn _) hfinds, Cursor.past_append, List.cons_append,
          ← Cursor.past_cons_of_not_isBreak hbreak]
        exact ih (p := (p.past (spaces column) _).along _) (h.open_char hbreak) hsome hvisible
          (fun hout => by cases hout) (.inl rfl)

end

theorem Cursor.skip_eq_past {c : Cursor} {text r : List Char} (h : c.rest = text ++ r)
    (hline : ∀ d ∈ text, isBreak d = false) : c.skip text.length = c.past text r := by
  have hrest := Cursor.rest_past h
  have hindex := Cursor.index_past c text r
  have hcolumn := Cursor.column_past c text r
  have hnumber := Cursor.line_past c text r
  rw [Cursor.columnAfter_of_line hline] at hcolumn
  rw [List.countP_eq_zero.mpr fun d hd => Bool.eq_false_iff.mp (hline d hd)] at hnumber
  change Cursor.mk _ _ _ _ = ⟨(c.past text r).rest, (c.past text r).index, (c.past text r).line,
    (c.past text r).column⟩
  rw [hrest, hindex, hcolumn, hnumber, h, List.drop_left]
  rfl

-- Behind the signs and the end of their line the block begins.
theorem block?_signs {blank : Bool} {chomping : Chomping} {outer : Nat} {p : Cursor} {body : List Char}
    (hcursor : p.rest = (if blank then ['2'] else []) ++ chomping.sign ++ '\n' :: body) :
    block? false outer p =
      blockFrom false chomping (max 1 (outer + 1))
        ⟨[], [], [], false, if blank then some (outer + 2) else none, 0, false⟩
        (p.past ((if blank then ['2'] else []) ++ chomping.sign ++ ['\n']) body) body := by
  have hsigns : ∀ c ∈ (if blank then ['2'] else []) ++ chomping.sign, isBreak c = false := by
    cases blank <;> cases chomping <;> exact eq_false_of_mem rfl
  have hskip := Cursor.skip_eq_past hcursor hsigns
  have hopened := Cursor.rest_past hcursor
  have hplace : p.past ((if blank then ['2'] else []) ++ chomping.sign ++ ['\n']) body =
      (p.past ((if blank then ['2'] else []) ++ chomping.sign) ('\n' :: body)).newLine body := by
    rw [Cursor.past_append]
    rfl
  rw [block?, hcursor, blockHeader?_signs, hplace]
  revert hskip hopened
  generalize p.past ((if blank then ['2'] else []) ++ chomping.sign) ('\n' :: body) = opened
  intro hskip hopened
  have hstays : opened.skipWhile isBlank = opened := by
    rw [Cursor.skipWhile, hopened]
    rfl
  have hcount : (if chomping = .clip then 0 else 1) + (if blank then 1 else 0) =
      ((if blank then ['2'] else []) ++ chomping.sign).length := by
    cases blank <;> cases chomping <;> rfl
  have hat : (p.skip ((if chomping = .clip then 0 else 1) + (if blank then 1 else 0))).skipWhile isBlank =
      opened := by rw [hcount, hskip, hstays]
  have hbreak : isBreak '\n' = true := rfl
  clear hcursor hsigns hplace hskip hcount
  cases blank <;>
    · simp only [if_true, Bool.false_eq_true, if_false, Nat.add_zero] at hat
      simp [hat, hopened, hbreak, Cursor.newLine]

-- A literal block is read back, up to the next line with content, which is not indented as far.
theorem block?_written {s r : List Char} {outer k : Nat} {p : Cursor} (h : KeptByLiteral s)
    (hcursor : p.rest =
      literalSigns s ++ '\n' :: (literalBody (outer + 2) true s ++ (spaces k ++ r)))
    (hk : k < outer + 2) (hrest : StartsContent r) :
    block? false outer p =
      some (s.reverse,
        (p.past (literalSigns s ++ '\n' :: literalBody (outer + 2) true s) (spaces k ++ r)).past
          (spaces k) r) := by
  have hsome : s ≠ [] := List.ne_nil_of_mem h.feed
  let b : BlockState :=
    ⟨[], [], [], false, if startsBlank s then some (outer + 2) else none, 0, false⟩
  have hholds : b.Holds [] := ⟨rfl, rfl, (fun hin => by cases hin), fun _ _ _ _ _ => rfl⟩
  have hfinds : b.Finds (outer + 2) (max 1 (outer + 1)) s := by
    cases hblank : startsBlank s with
    | true => exact .inl (by simp [b, hblank])
    | false =>
      match s, hsome, hblank, h.visible with
      | c :: s, _, hblank, hvisible =>
        simp only [startsBlank, List.head?_cons, Option.any_some, Bool.or_eq_false_iff] at hblank
        obtain ⟨hspace, hbreak⟩ := hblank
        rw [isAnyBreak_eq_isBreak (hvisible c List.mem_cons_self)] at hbreak
        refine .inr ⟨by simp [b, hblank], rfl, rfl, by omega, c, rfl, ?_, hbreak⟩
        refine not_isBlank_of_isVisible (hvisible c List.mem_cons_self) ?_
        rintro rfl
        cases hspace
  rw [literalSigns_eq] at hcursor ⊢
  have hstart : ∀ column, Cursor.columnAfter column
      ((if startsBlank s then ['2'] else []) ++ (chompingOf s).sign ++ ['\n']) = 0 := by
    intro column
    cases startsBlank s <;> cases chompingOf s <;> rfl
  have hread := blockFrom_body hholds hsome h.visible
    (fun _ => by rw [Cursor.column_past, hstart]) hfinds hk hrest
    (p := p.past ((if startsBlank s then ['2'] else []) ++ (chompingOf s).sign ++ ['\n'])
      (literalBody (outer + 2) true s ++ (spaces k ++ r)))
  rw [block?_signs hcursor, List.append_cons _ '\n' (literalBody (outer + 2) true s),
    Cursor.past_append _ _ (literalBody (outer + 2) true s)]
  exact hread

-- A block ends at the start of a line.
theorem columnAfter_literalBody {indent column : Nat} {atBreak : Bool} (h : atBreak = true → column = 0)
    (s : List Char) : Cursor.columnAfter column (literalBody indent atBreak s) = 0 := by
  induction s generalizing atBreak column with
  | nil =>
    cases atBreak with
    | true => exact h rfl
    | false => rfl
  | cons c s ih =>
    rw [literalBody]
    by_cases hc : isBreak c = true
    · rw [if_pos hc, Cursor.columnAfter, if_pos hc]
      exact ih fun _ => rfl
    · rw [if_neg hc, Cursor.columnAfter_append, Cursor.columnAfter, if_neg hc]
      exact ih fun h => by cases h

end ChatAssistant.Yaml
