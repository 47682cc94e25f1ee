import ChatAssistant.Proofs.Yaml.Literal
import ChatAssistant.Yaml.Lexer

/-!
# Steps of the lexer

How the lexer goes from one place between tokens to the next.  What it reads from a place does not depend on
the fuel, as long as there is more of it than text.
-/

namespace ChatAssistant.Yaml.Lexer

/-! ## Runs -/

/-- The place of the next token, with the collections closed that end before it. -/
def prepare? (s : Lexer) : Option Lexer :=
  s.skipBlank.dropStale.map fun s => s.unroll s.cursor.column

/-- From this state the lexer comes to this result. -/
def Reads (s : Lexer) (result : Option Lexer) : Prop :=
  ∀ fuel, s.cursor.rest.length < fuel → run fuel s = result

/-- What is read from the second state is read from the first. -/
def Leads (s t : Lexer) : Prop := ∀ result, t.Reads result → s.Reads result

variable {s t u : Lexer}

theorem Leads.refl (s : Lexer) : Leads s s := fun _ h => h

theorem Leads.trans (h : Leads s t) (h' : Leads t u) : Leads s u := fun result hu => h result (h' result hu)

theorem run_succ (fuel : Nat) (s : Lexer) :
    run (fuel + 1) s = s.prepare?.bind fun s =>
      match s.cursor.rest with
      | [] => s.finish
      | c :: rest => (s.fetch c rest).bind (run fuel) := by
  rw [run, prepare?]
  cases s.skipBlank.dropStale with
  | none => rfl
  | some s => rfl

theorem leads_of_prepare (h : s.prepare? = t.prepare?)
    (hlength : t.cursor.rest.length ≤ s.cursor.rest.length) : Leads s t := by
  intro result ht fuel hfuel
  cases fuel with
  | zero => cases hfuel
  | succ fuel =>
    rw [run_succ, h, ← run_succ]
    exact ht _ (Nat.lt_of_le_of_lt hlength hfuel)

theorem leads_of_fetch {c : Char} {rest : List Char} (h : s.prepare? = some s)
    (hrest : s.cursor.rest = c :: rest) (hfetch : s.fetch c rest = some t)
    (hlength : t.cursor.rest.length ≤ rest.length) : Leads s t := by
  intro result ht fuel hfuel
  cases fuel with
  | zero => cases hfuel
  | succ fuel =>
    rw [run_succ, h, Option.bind_some, hrest]
    dsimp only
    rw [hfetch, Option.bind_some]
    rw [hrest, List.length_cons] at hfuel
    exact ht fuel (by omega)

/-! ## Places -/

theorem blankFrom_of_startsContent {inFlow keyAllowed : Bool} {p : Cursor} {cs : List Char}
    (h : StartsContent cs) : blankFrom inFlow keyAllowed false p cs = (p, keyAllowed) := by
  cases cs with
  | nil => rfl
  | cons c rest =>
    obtain ⟨hblank, hbreak, hsign, hmark⟩ := h
    simp only [isBlank, Bool.or_eq_false_iff, beq_eq_false_iff_ne] at hblank
    rw [blankFrom, hbreak]
    simp [hblank.1, hblank.2, hsign, hmark]

theorem blankFrom_spaces {inFlow keyAllowed : Bool} {p : Cursor} {n : Nat} {cs : List Char}
    (h : StartsContent cs) :
    blankFrom inFlow keyAllowed false p (spaces n ++ cs) = (p.past (spaces n) cs, keyAllowed) := by
  induction n generalizing p with
  | zero => exact blankFrom_of_startsContent h
  | succ n ih =>
    have hmark : ¬(' ' = byteOrderMark ∧ p.column = 0) := fun hmark => absurd hmark.1 (by decide)
    rw [spaces, List.replicate_succ, List.cons_append, blankFrom, if_neg (by decide), if_neg (by decide),
      if_neg hmark, if_pos (.inl rfl)]
    exact ih

theorem blankFrom_newLine {keyAllowed : Bool} {p : Cursor} {n : Nat} {cs : List Char}
    (h : StartsContent cs) :
    blankFrom false keyAllowed false p ('\n' :: (spaces n ++ cs)) =
      (p.past ('\n' :: spaces n) cs, true) := by
  rw [blankFrom, if_pos (by decide), blankFrom_spaces h]
  cases keyAllowed <;> rfl

/-- The state at another place, with these tokens read on the way and no key under way. -/
def onto (s : Lexer) (p : Cursor) (keyAllowed : Bool) (tokens : List Token) : Lexer :=
  { s with
    cursor := p, keyAllowed, keys := [none], out := tokens.reverse ++ s.out
    count := s.count + tokens.length }

@[simp] theorem onto_onto (p q : Cursor) (a b : Bool) (front tokens : List Token) :
    (s.onto p a front).onto q b tokens = s.onto q b (front ++ tokens) := by
  simp only [onto, List.reverse_append, List.append_assoc, List.length_append, Nat.add_assoc]

@[simp] theorem onto_cursor (p : Cursor) (a : Bool) (tokens : List Token) :
    (s.onto p a tokens).cursor = p := rfl

@[simp] theorem onto_indent (p : Cursor) (a : Bool) (tokens : List Token) :
    (s.onto p a tokens).indent = s.indent := rfl

@[simp] theorem onto_keyAllowed (p : Cursor) (a : Bool) (tokens : List Token) :
    (s.onto p a tokens).keyAllowed = a := rfl

/-- The place that may have been a key is none that has to be one. -/
def Forgets (s : Lexer) (line : Nat) : Prop :=
  s.keys = [none] ∨ ∃ key, s.keys = [some key] ∧ key.required = false ∧ key.line < line

theorem Forgets.inFlow {line : Nat} (h : s.Forgets line) : s.inFlow = false := by
  rcases h with h | ⟨key, h, -⟩ <;> simp [Lexer.inFlow, h]

-- Behind the end of its line nothing is a key any more.
theorem dropStale_of_forgets (h : s.Forgets s.cursor.line) : s.dropStale = some { s with keys := [none] } := by
  rcases h with h | ⟨key, h, hrequired, hline⟩
  · rw [dropStale, h]
    rfl
  · have hstale : isStale s.cursor key = true := by simp [isStale, hline]
    simp [dropStale, h, hstale, hrequired]

theorem prepare_onto {p : Cursor} (h : StartsContent p.rest) (b : Bool) (tokens : List Token) :
    (s.onto p b tokens).prepare? = some ((s.onto p b tokens).unroll p.column) := by
  have hstays : (s.onto p b tokens).skipBlank = s.onto p b tokens := by
    rw [skipBlank, onto_cursor, onto_keyAllowed, blankFrom_of_startsContent h]
    rfl
  rw [prepare?, hstays, dropStale_of_forgets (.inl rfl)]
  rfl

theorem mapM_eq_self {α : Type} {f : α → Option α} {l : List α} (h : ∀ a ∈ l, f a = some a) :
    l.mapM f = some l := by
  induction l with
  | nil => rfl
  | cons a l ih =>
    rw [List.forall_mem_cons] at h
    simp [List.mapM_cons, h.1, ih h.2]

theorem dropStale_of_fresh (h : ∀ key, some key ∈ s.keys → isStale s.cursor key = false) :
    s.dropStale = some s := by
  rw [dropStale, mapM_eq_self fun key hkey => ?_]
  · rfl
  · cases key with
    | none => rfl
    | some key => simp [h key hkey]

-- The lexer goes over white space.
theorem leads_onto {p : Cursor} {b : Bool}
    (hblank : blankFrom false s.keyAllowed false s.cursor s.cursor.rest = (p, b))
    (hforgets : s.Forgets p.line) (hlength : p.rest.length ≤ s.cursor.rest.length)
    (hrest : StartsContent p.rest) : Leads s (s.onto p b []) := by
  refine leads_of_prepare ?_ hlength
  have hskip : s.skipBlank = { s with cursor := p, keyAllowed := b } := by
    rw [skipBlank, hforgets.inFlow, hblank]
  rw [prepare?, prepare_onto hrest, hskip, dropStale_of_forgets hforgets]
  rfl

/-- A place where content starts, no further left than the collections around it. -/
structure Spot (s : Lexer) (n : Nat) (text : List Char) : Prop where
  rest : s.cursor.rest = text
  column : s.cursor.column = n
  keys : s.keys = [none]
  indent : s.indent ≤ n
  content : StartsContent text

theorem unrollFrom_of_le {column : Int} (h : s.indent ≤ column) (outer : List Int) :
    unrollFrom column outer s = s := by
  cases outer with
  | nil => rfl
  | cons parent rest => rw [unrollFrom, if_neg (by omega)]

theorem unroll_of_le {column : Int} (h : s.indent ≤ column) : s.unroll column = s := by
  rw [unroll, unrollFrom_of_le h]
  split <;> rfl

section

variable {n : Nat} {text : List Char}

theorem Spot.prepare (h : s.Spot n text) : s.prepare? = some s := by
  have hskip : s.skipBlank = s := by
    rw [skipBlank, h.rest, blankFrom_of_startsContent h.content]
  have hkeys : { s with keys := [none] } = s := by rw [← h.keys]
  rw [prepare?, hskip, dropStale_of_forgets (.inl h.keys), hkeys, Option.map_some, h.column, unroll_of_le h.indent]

theorem Spot.inFlow (h : s.Spot n text) : s.inFlow = false := by
  rw [Lexer.inFlow, h.keys]
  rfl

theorem dropKey_of_keys (h : s.keys = [none]) : s.dropKey = some s := by
  rw [dropKey, h]

-- A blank behind a sign.
theorem leads_blank {rest : List Char} (hkeys : s.keys = [none]) (hrest : s.cursor.rest = ' ' :: rest)
    (hcontent : StartsContent rest) : Leads s (s.onto (s.cursor.along rest) s.keyAllowed []) := by
  refine leads_onto ?_ (.inl hkeys) ?_ hcontent
  · rw [hrest]
    exact blankFrom_spaces (n := 1) hcontent
  · rw [hrest]
    exact Nat.le_succ _

theorem atDocumentMark_of_head {p : Cursor} {c : Char} {rest : List Char} (h : p.rest = c :: rest)
    (hc : c ≠ '-' ∧ c ≠ '.' ∨ p.column ≠ 0) : p.atDocumentMark = false := by
  rcases hc with ⟨hminus, hpoint⟩ | hcolumn
  · have hmark : isDocumentMark p.rest = false := by
      rw [h]
      match rest with
      | [] | [_] => rfl
      | a :: b :: rest => simp [isDocumentMark, hminus, hpoint]
    rw [Cursor.atDocumentMark, hmark, Bool.and_false]
  · exact Cursor.atDocumentMark_of_column hcolumn

/-! ## Collections -/

/-- The state inside a collection at a column, which is opened where it is further right than the one
around. -/
def opened (s : Lexer) (n : Nat) (token : Token) : Lexer :=
  if s.indent < n then
    { s with indent := n, outer := s.indent :: s.outer, out := token :: s.out, count := s.count + 1 }
  else s

theorem roll_of_lt (hflow : s.inFlow = false) (h : s.indent < n) (number : Nat) (token : Token) :
    s.roll n number token =
      ({ s with indent := n, outer := s.indent :: s.outer }).insertAt number token := by
  rw [Lexer.roll, hflow, if_neg (by simpa using h)]

theorem roll_of_not_lt (h : ¬s.indent < n) (number : Nat) (token : Token) :
    s.roll n number token = s := by
  rw [Lexer.roll, if_pos]
  rw [Bool.or_eq_true]
  exact .inr (decide_eq_true (by omega))

theorem Spot.roll (h : s.Spot n text) (token : Token) :
    s.roll s.cursor.column s.count token = s.opened n token := by
  rw [h.column, opened]
  split
  · next hlt =>
    rw [roll_of_lt h.inFlow hlt, insertAt, Nat.sub_self]
    rfl
  · next hlt => exact roll_of_not_lt hlt _ _

@[simp] theorem opened_cursor (token : Token) : (s.opened n token).cursor = s.cursor := by
  rw [opened]
  split <;> rfl

@[simp] theorem opened_keys (token : Token) : (s.opened n token).keys = s.keys := by
  rw [opened]
  split <;> rfl

theorem opened_indent (h : s.indent ≤ n) (token : Token) : (s.opened n token).indent = n := by
  rw [opened]
  split
  · rfl
  · omega

theorem opened_of_not_lt (h : ¬s.indent < n) (token : Token) : s.opened n token = s := if_neg h

-- A collection ends before content further left.
theorem leads_close {p : Cursor} {token : Token} {tokens : List Token} (hn : s.indent < n)
    (hp : p.column < n) (hcontent : StartsContent p.rest) :
    Leads ((s.opened n token).onto p true tokens) (s.onto p true (token :: (tokens ++ [.blockEnd]))) := by
  refine leads_of_prepare ?_ (Nat.le_refl _)
  rw [prepare_onto hcontent, prepare_onto hcontent, opened, if_pos hn]
  have hright : (p.column : Int) < n := by omega
  simp only [unroll, inFlow, onto, List.length_cons, List.length_nil, Nat.lt_irrefl, decide_false,
    Bool.false_eq_true, if_false, unrollFrom, hright, if_true, emit, List.reverse_cons, List.reverse_append,
    List.length_append, List.append_assoc]
  have hcount : s.count + 1 + tokens.length + 1 = s.count + (tokens.length + (0 + 1) + 1) := by omega
  rw [hcount]
  rfl

/-! ## Tokens -/

-- A sign and what it stands for.
theorem onto_indicator (token : Token) (hkeys : s.keys = [none]) (b : Bool) :
    { s with keyAllowed := b }.indicator token = s.onto (s.cursor.skip 1) b [token] := by
  rw [onto, ← hkeys]
  rfl

-- The sign of an item of a list.
theorem Spot.fetch_entry {rest : List Char} (h : s.Spot n ('-' :: rest)) (hrest : endsWord rest = true)
    (hkey : s.keyAllowed = true) (hmark : s.cursor.atDocumentMark = false) :
    s.fetch '-' rest = some ((s.opened n .blockSequence).onto (s.cursor.skip 1) true [.blockEntry]) := by
  have hsign : s.fetch '-' rest = s.fetchBlockEntry := by simp [fetch, hmark, hrest]
  have hkeys : (s.opened n .blockSequence).keys = [none] := (opened_keys _).trans h.keys
  rw [hsign, fetchBlockEntry, hkey, if_neg (by simp), h.roll, dropKey_of_keys hkeys, Option.bind_eq_bind,
    Option.bind_some, onto_indicator _ hkeys, opened_cursor]

-- The sign of a key on lines of its own.
theorem Spot.fetch_key {rest : List Char} (h : s.Spot n ('?' :: rest)) (hrest : endsWord rest = true)
    (hkey : s.keyAllowed = true) :
    s.fetch '?' rest = some ((s.opened n .blockMapping).onto (s.cursor.skip 1) true [.key]) := by
  have hsign : s.fetch '?' rest = s.fetchKey := by
    simp [fetch, atDocumentMark_of_head h.rest (.inl (by decide)), hrest]
  have hkeys : (s.opened n .blockMapping).keys = [none] := (opened_keys _).trans h.keys
  have hflow : (s.opened n .blockMapping).inFlow = false := by
    rw [Lexer.inFlow, hkeys]
    rfl
  rw [hsign, fetchKey, hkey, if_neg (by simp), h.roll, dropKey_of_keys hkeys, Option.bind_eq_bind,
    Option.bind_some, hflow, Bool.not_false, onto_indicator _ hkeys, opened_cursor]

-- The sign of the value of such a key.
theorem Spot.fetch_value {rest : List Char} (h : s.Spot n (':' :: rest)) (hrest : endsWord rest = true)
    (hkey : s.keyAllowed = true) (hn : ¬s.indent < n) :
    s.fetch ':' rest = some (s.onto (s.cursor.skip 1) true [.value]) := by
  have hsign : s.fetch ':' rest = s.fetchValue := by
    simp [fetch, atDocumentMark_of_head h.rest (.inl (by decide)), hrest]
  rw [hsign, fetchValue, h.keys, hkey]
  simp only
  rw [if_neg (by simp), h.roll, opened_of_not_lt hn, h.inFlow, Bool.not_false, onto_indicator _ h.keys]

/-! ## Scalars -/

/-- The state that keeps its place in mind where a key may start. -/
def saved (s : Lexer) : Lexer :=
  if s.keyAllowed then
    { s with
      keys := [some ⟨s.indent == s.cursor.column, s.count, s.cursor.index, s.cursor.line, s.cursor.column⟩] }
  else s

/-- The place of a key that starts here. -/
def keyStart (s : Lexer) : KeyStart :=
  ⟨s.indent == s.cursor.column, s.count, s.cursor.index, s.cursor.line, s.cursor.column⟩

theorem saved_of_keyAllowed (h : s.keyAllowed = true) : s.saved = { s with keys := [some s.keyStart] } := by
  rw [saved, h, if_pos rfl]
  rfl

theorem keyStart_fresh {p : Cursor} (hline : p.line = s.cursor.line) (hindex : p.index ≤ s.cursor.index + 1024) :
    isStale p s.keyStart = false := by
  have hnumber : ¬s.cursor.line < p.line := by omega
  have hplace : ¬s.cursor.index + 1024 < p.index := by omega
  simp [isStale, keyStart, hnumber, hplace]

theorem Spot.saveKey (h : s.Spot n text) : s.saveKey = some s.saved := by
  rw [Lexer.saveKey, saved, h.inFlow, dropKey_of_keys h.keys]
  split
  · rw [Option.bind_eq_bind, Option.bind_some, h.keys]
    rfl
  · rfl

@[simp] theorem saved_cursor : s.saved.cursor = s.cursor := by
  rw [saved]
  split <;> rfl

@[simp] theorem saved_indent : s.saved.indent = s.indent := by
  rw [saved]
  split <;> rfl

-- The place kept in mind is not too far back on the same line.
theorem Spot.saved_keys (h : s.Spot n text) :
    ∃ key?, s.saved.keys = [key?] ∧
      ∀ key, key? = some key → ∀ p : Cursor, p.line = s.cursor.line → p.index ≤ s.cursor.index + 1024 →
        isStale p key = false := by
  cases hkey : s.keyAllowed with
  | false =>
    refine ⟨none, ?_, fun key hkey => by cases hkey⟩
    rw [saved, hkey, if_neg (by decide), h.keys]
  | true =>
    refine ⟨some s.keyStart, by rw [saved_of_keyAllowed hkey], ?_⟩
    rintro key ⟨⟩ p hline hindex
    exact keyStart_fresh hline hindex

theorem Spot.saved_inFlow (h : s.Spot n text) : s.saved.inFlow = false := by
  rw [saved]
  split
  · rfl
  · exact h.inFlow

/-- The state behind a scalar. -/
def behind (s : Lexer) (p : Cursor) (b : Bool) (token : Token) : Lexer :=
  { s.saved with cursor := p, keyAllowed := b }.emit token

-- A text between double quotes.
theorem Spot.fetch_double {cs rest : List Char}
    (h : s.Spot n ('"' :: (cs.flatMap doubleChar ++ '"' :: rest))) :
    s.fetch '"' (cs.flatMap doubleChar ++ '"' :: rest) =
      some (s.behind (s.cursor.past ('"' :: (cs.flatMap doubleChar ++ ['"'])) rest) false
        (.scalar false (String.ofList cs))) := by
  have hsign : s.fetch '"' (cs.flatMap doubleChar ++ '"' :: rest) = s.fetchQuoted true := by
    simp [fetch, atDocumentMark_of_head h.rest (.inl (by decide))]
  have hskip : s.cursor.skip 1 = s.cursor.along (cs.flatMap doubleChar ++ '"' :: rest) := by
    rw [Cursor.skip, h.rest]
    rfl
  have hread := doubleQuotedFrom_written (p := s.cursor.along (cs.flatMap doubleChar ++ '"' :: rest))
    (t := []) (r := rest) (g := .none) (Nat.succ_ne_zero _) trivial cs
  have hplace := s.cursor.past_cons_last (d := '"') (cs.flatMap doubleChar) '"' rest
  rw [Cursor.step_of_not_isBreak rfl] at hplace
  rw [hsign, fetchQuoted, h.saveKey, Option.bind_eq_bind, Option.bind_some, if_pos rfl, saved_cursor, hskip]
  change ((doubleQuotedFrom .text [] .none (s.cursor.along (cs.flatMap doubleChar ++ '"' :: rest))
    (cs.flatMap doubleChar ++ '"' :: rest)).bind _) = _
  rw [hread, hplace, Option.bind_some, Gap.folded, List.append_nil, List.append_nil]
  dsimp only
  rw [List.reverse_reverse]
  rfl

-- A text between single quotes.
theorem Spot.fetch_single {cs rest : List Char} {indent : Nat} (hcs : KeptBySingle cs) (hindent : 0 < indent)
    (hrest : rest.head? ≠ some '\'')
    (h : s.Spot n ('\'' :: (singleBody indent false cs ++ '\'' :: rest))) :
    s.fetch '\'' (singleBody indent false cs ++ '\'' :: rest) =
      some (s.behind (s.cursor.past ('\'' :: (singleBody indent false cs ++ ['\''])) rest) false
        (.scalar false (String.ofList cs))) := by
  have hsign : s.fetch '\'' (singleBody indent false cs ++ '\'' :: rest) = s.fetchQuoted false := by
    simp [fetch, atDocumentMark_of_head h.rest (.inl (by decide))]
  have hskip : s.cursor.skip 1 = s.cursor.along (singleBody indent false cs ++ '\'' :: rest) := by
    rw [Cursor.skip, h.rest]
    rfl
  have hread := singleQuotedFrom_written (p := s.cursor.along (singleBody indent false cs ++ '\'' :: rest))
    (t := []) (r := rest) (g := .none) hcs trivial (.inl (Nat.succ_ne_zero _)) hindent hrest
  have hplace := s.cursor.past_cons_last (d := '\'') (singleBody indent false cs) '\'' rest
  rw [Cursor.step_of_not_isBreak rfl] at hplace
  rw [hsign, fetchQuoted, h.saveKey, Option.bind_eq_bind, Option.bind_some, if_neg (by decide), saved_cursor,
    hskip]
  change ((singleQuotedFrom false [] .none (s.cursor.along (singleBody indent false cs ++ '\'' :: rest))
    (singleBody indent Gap.none.isBreaks cs ++ '\'' :: rest)).bind _) = _
  have hnone : Gap.none.isBreaks = false := rfl
  rw [hread, Option.bind_some, Gap.folded, List.append_nil, List.append_nil, hnone, hplace]
  dsimp only
  rw [List.reverse_reverse]
  rfl

-- A literal block, up to the next content.
theorem Spot.fetch_literal {cs rest : List Char} {outer k : Nat} (hcs : KeptByLiteral cs)
    (hindent : s.indent = outer) (hk : k < outer + 2) (hrest : StartsContent rest)
    (h : s.Spot n ('|' :: (literalSigns cs ++
      '\n' :: (literalBody (outer + 2) true cs ++ (spaces k ++ rest))))) :
    ∃ p : Cursor, p.rest = rest ∧ p.column = k ∧
      s.fetch '|' (literalSigns cs ++ '\n' :: (literalBody (outer + 2) true cs ++ (spaces k ++ rest))) =
        some (s.onto p true [.scalar false (String.ofList cs)]) := by
  have hsign : s.fetch '|' (literalSigns cs ++
      '\n' :: (literalBody (outer + 2) true cs ++ (spaces k ++ rest))) = s.fetchBlockScalar false := by
    simp [fetch, atDocumentMark_of_head h.rest (.inl (by decide)), h.inFlow]
  have hskip : (s.cursor.skip 1).rest = literalSigns cs ++
      '\n' :: (literalBody (outer + 2) true cs ++ (spaces k ++ rest)) := by
    rw [Cursor.skip, h.rest]
    rfl
  have hread := block?_written hcs hskip hk hrest
  rw [← hindent] at hread
  have hparts : (s.cursor.skip 1).rest =
      (literalSigns cs ++ '\n' :: literalBody (outer + 2) true cs) ++ (spaces k ++ rest) := by
    rw [hskip, List.append_assoc, List.cons_append]
  refine ⟨_, Cursor.rest_past (Cursor.rest_past hparts), ?_, ?_⟩
  · have hline : Cursor.columnAfter (s.cursor.skip 1).column
        (literalSigns cs ++ '\n' :: literalBody (outer + 2) true cs) = 0 := by
      rw [Cursor.columnAfter_append]
      exact columnAfter_literalBody (fun _ => rfl) cs
    rw [Cursor.column_past, Cursor.column_past, hline,
      Cursor.columnAfter_of_line not_isBreak_of_mem_spaces, spaces, List.length_replicate, Nat.zero_add]
  · rw [hsign, fetchBlockScalar, dropKey_of_keys h.keys, Option.bind_eq_bind, Option.bind_some, hread,
      Option.bind_eq_bind, Option.bind_some]
    dsimp only
    rw [List.reverse_reverse, onto, ← h.keys]
    rfl

theorem not_isIndicator_of_plainText {c : Char} {cs : List Char} (h : PlainText (c :: cs))
    (hc : ¬(c = '?' ∨ c = ':' ∨ c = '-')) : isIndicator c = false := by
  have hsigns : ∀ d ∈ "-?:,[]#&*!|>'\"%@`\x7b\x7d".toList,
      ((d == '?' || d == ':' || d == '-') || "#,[]&*!|>'\"%@`\x7b\x7d".toList.contains d) = true :=
    List.all_eq_true.mp rfl
  refine Bool.eq_false_iff.mpr fun hsign => ?_
  have hmem : c ∈ "-?:,[]#&*!|>'\"%@`\x7b\x7d".toList := by
    have hlist : "-?:,[]#&*!|>'\"%@`\x7b\x7d".toList = "-?:,[]#&*!|>'\"%@`".toList ++ ['\x7b', '\x7d'] := by
      decide
    rw [hlist, List.mem_append, List.mem_cons, List.mem_singleton, ← or_assoc]
    simpa only [isIndicator, Bool.or_eq_true, List.contains_eq_mem, decide_eq_true_eq, beq_iff_eq] using hsign
  have hcases := hsigns c hmem
  simp only [Bool.or_eq_true, beq_iff_eq, List.contains_eq_mem, decide_eq_true_eq, or_assoc] at hcases
  rcases hcases with hquestion | hcolon | hminus | hother
  · exact hc (.inl hquestion)
  · exact hc (.inr (.inl hcolon))
  · exact hc (.inr (.inr hminus))
  · exact h.ne_sign c hother rfl

-- The start of a plain scalar passes the last test of the lexer, and no test before it.
theorem Spot.fetch_plain_sign {c : Char} {cs more : List Char} (hcs : PlainText (c :: cs))
    (h : s.Spot n (c :: (cs ++ more))) (hmark : c ≠ '-' ∧ c ≠ '.' ∨ n ≠ 0) :
    s.fetch c (cs ++ more) = s.fetchPlain := by
  have hdocument : s.cursor.atDocumentMark = false := atDocumentMark_of_head h.rest (h.column ▸ hmark)
  have hword : ∀ sign, sign = '?' ∨ sign = ':' ∨ sign = '-' →
      ¬(c = sign ∧ (s.inFlow = true ∨ endsWord (cs ++ more) = true)) := by
    rintro sign hsign ⟨rfl, hflow | hrest⟩
    · rw [h.inFlow] at hflow
      cases hflow
    · exact Bool.eq_false_iff.mp (hcs.endsWord_of_sign hsign more) hrest
  have hplain : (!(isBlank c || isIndicator c) || (c = '-' && !((cs ++ more).head?.any isBlank)) ||
      (!s.inFlow && (c == '?' || c == ':'))) = true := by
    by_cases hsign : c = '?' ∨ c = ':' ∨ c = '-'
    · have hnext := not_isBlank_of_endsWord (hcs.endsWord_of_sign hsign more)
      rw [hnext, h.inFlow]
      rcases hsign with rfl | rfl | rfl <;> simp
    · have hblank : isBlank c = false := by simpa using hcs.first
      simp [hblank, not_isIndicator_of_plainText hcs hsign]
  have hne : ∀ d, "#,[]&*!|>'\"%@`\x7b\x7d".toList.contains d = true → c ≠ d := fun d hd =>
    hcs.ne_sign d (List.contains_iff_mem.mp hd)
  rw [fetch, if_neg (fun hc => hne '%' rfl hc.2), hdocument, if_neg (by decide), if_neg (hne '[' rfl),
    if_neg (hne '\x7b' rfl), if_neg (hne ']' rfl), if_neg (hne '\x7d' rfl), if_neg (hne ',' rfl),
    if_neg (fun hc => hword '-' (by simp) ⟨hc.1, .inr hc.2⟩), if_neg (hword '?' (by simp)),
    if_neg (hword ':' (by simp)), if_neg (hne '*' rfl), if_neg (hne '&' rfl), if_neg (hne '!' rfl),
    if_neg (fun hc => hne '|' rfl hc.1), if_neg (fun hc => hne '>' rfl hc.1), if_neg (hne '\'' rfl),
    if_neg (hne '"' rfl), if_pos hplain]

-- A plain scalar is read as far as the reader of its text goes.
theorem Spot.fetch_plain {c : Char} {cs more : List Char} {p : Cursor} {b : Bool} (hcs : PlainText (c :: cs))
    (h : s.Spot n (c :: (cs ++ more))) (hmark : c ≠ '-' ∧ c ≠ '.' ∨ n ≠ 0)
    (hend : plainFrom false (s.indent + 1) (c :: cs).reverse .none (s.cursor.past (c :: cs) more) more =
      some ((c :: cs).reverse, b, p)) :
    s.fetch c (cs ++ more) = some (s.behind p b (.scalar true (String.ofList (c :: cs)))) := by
  have hread : plainFrom false (s.indent + 1) [] .none s.cursor (c :: cs ++ more) =
      some ((c :: cs).reverse, b, p) := by
    have hindent : s.indent + 1 ≤ s.cursor.column + 1 := by
      have := h.indent
      rw [h.column]
      omega
    rw [plainFrom_text (g := .none) hcs.line hcs.inner hcs.last trivial (fun h => by cases h) hindent
      (fun h => by cases h), Gap.folded, List.append_nil, List.append_nil]
    exact hend
  rw [← saved_indent] at hread
  rw [h.fetch_plain_sign hcs hmark, fetchPlain, h.saveKey, Option.bind_eq_bind, Option.bind_some, h.saved_inFlow,
    saved_cursor, h.rest, ← List.cons_append, hread, Option.bind_eq_bind, Option.bind_some]
  dsimp only
  rw [List.reverse_reverse]
  rfl

theorem Spot.behind_forgets (h : s.Spot n text) (hn : s.indent < n) {p : Cursor} {b : Bool} {t : Token}
    {line : Nat} (hline : s.cursor.line < line) : (s.behind p b t).Forgets line := by
  cases hkey : s.keyAllowed with
  | false =>
    refine .inl ?_
    rw [behind, saved, hkey, if_neg (by decide)]
    exact h.keys
  | true =>
    refine .inr ⟨s.keyStart, ?_, ?_, hline⟩
    · rw [behind, saved_of_keyAllowed hkey]
      rfl
    · rw [keyStart, h.column]
      exact beq_eq_false_iff_ne.mpr (by omega)

theorem behind_onto (p q : Cursor) (a b : Bool) (token : Token) :
    (s.behind p a token).onto q b [] = s.onto q b [token] := by
  rw [behind, saved]
  split <;> rfl

-- Behind the line of a value the next content is no part of a key.
theorem Spot.leads_behind (h : s.Spot n text) (hn : s.indent < n) {p q : Cursor} {a b : Bool} {token : Token}
    (hblank : blankFrom false a false p p.rest = (q, b)) (hline : s.cursor.line < q.line)
    (hlength : q.rest.length ≤ p.rest.length) (hcontent : StartsContent q.rest) :
    Leads (s.behind p a token) (s.onto q b [token]) := by
  rw [← behind_onto p q a]
  exact leads_onto hblank (h.behind_forgets hn hline) hlength hcontent

-- Behind a scalar on its line the place of the key is still in mind.
theorem Spot.prepare_behind (h : s.Spot n text) (hkey : s.keyAllowed = true) {p : Cursor} {token : Token}
    (hcontent : StartsContent p.rest) (hline : p.line = s.cursor.line)
    (hindex : p.index ≤ s.cursor.index + 1024) (hcolumn : n < p.column) :
    (s.behind p false token).prepare? = some (s.behind p false token) := by
  have hkeys : (s.behind p false token).keys = [some s.keyStart] := by
    rw [behind, saved_of_keyAllowed hkey]
    rfl
  have hflow : (s.behind p false token).inFlow = false := by
    rw [Lexer.inFlow, hkeys]
    rfl
  have hskip : (s.behind p false token).skipBlank = s.behind p false token := by
    rw [skipBlank, hflow]
    change ({ s.behind p false token with
      cursor := (blankFrom false false false p p.rest).1
      keyAllowed := (blankFrom false false false p p.rest).2 } : Lexer) = _
    rw [blankFrom_of_startsContent hcontent]
    rfl
  have hdrop : (s.behind p false token).dropStale = some (s.behind p false token) := by
    refine dropStale_of_fresh fun key hmem => ?_
    rw [hkeys, List.mem_singleton, Option.some.injEq] at hmem
    rw [hmem]
    exact keyStart_fresh hline hindex
  have hindent : (s.behind p false token).indent ≤ p.column := by
    have hle := h.indent
    change s.saved.indent ≤ p.column
    rw [saved_indent]
    omega
  rw [prepare?, hskip, hdrop, Option.map_some]
  exact congrArg some (unroll_of_le hindent)

-- A colon behind a scalar puts the sign of a key in front of it.
theorem Spot.fetchValue_behind (h : s.Spot n text) (hkey : s.keyAllowed = true) (p : Cursor) (token : Token) :
    (s.behind p false token).fetchValue =
      some ((s.opened n .blockMapping).onto (p.skip 1) false [.key, token, .value]) := by
  have hone : s.count + 1 - s.count = 1 := by omega
  have htwo : s.count + 1 + 1 - s.count = 2 := by omega
  rw [behind, saved_of_keyAllowed hkey, fetchValue, opened]
  simp only [emit, insertAt, keyStart, hone, h.column]
  split
  · next hlt =>
    rw [roll_of_lt, insertAt, htwo]
    · rfl
    · rfl
    · exact hlt
  · next hlt =>
    rw [roll_of_not_lt]
    · rfl
    · exact hlt

-- A colon behind a scalar makes it a key.
theorem Spot.leads_colon (h : s.Spot n text) (hkey : s.keyAllowed = true) {p : Cursor} {token : Token}
    {rest : List Char} (hp : p.rest = ':' :: rest) (hrest : endsWord rest = true)
    (hline : p.line = s.cursor.line) (hindex : p.index ≤ s.cursor.index + 1024) (hcolumn : n < p.column) :
    Leads (s.behind p false token) ((s.opened n .blockMapping).onto (p.skip 1) false [.key, token, .value]) := by
  have hcontent : StartsContent p.rest := by
    rw [hp]
    exact ⟨rfl, rfl, by decide, by decide⟩
  have hmark : (s.behind p false token).cursor.atDocumentMark = false :=
    atDocumentMark_of_head (p := p) hp (.inl (by decide))
  have hsign : (s.behind p false token).fetch ':' rest = (s.behind p false token).fetchValue := by
    simp [fetch, hmark, hrest]
  refine leads_of_fetch (h.prepare_behind hkey hcontent hline hindex hcolumn) hp
    (hsign.trans (h.fetchValue_behind hkey p token)) (Nat.le_of_eq ?_)
  rw [onto_cursor, Cursor.skip, hp]
  rfl

/-! ## Empty collections -/

/-- The state behind an opening bracket. -/
def inside (s : Lexer) (start : Token) : Lexer :=
  { s.saved with
    cursor := s.cursor.skip 1, keys := none :: s.saved.keys, keyAllowed := true, out := start :: s.saved.out
    count := s.saved.count + 1 }

theorem Spot.openFlow (h : s.Spot n text) (start : Token) : s.openFlow start = some (s.inside start) := by
  rw [Lexer.openFlow, h.saveKey, Option.bind_eq_bind, Option.bind_some, indicator]
  simp only [saved_cursor]
  rfl

theorem Spot.inside_inFlow (h : s.Spot n text) (start : Token) : (s.inside start).inFlow = true := by
  obtain ⟨key?, hkeys, -⟩ := h.saved_keys
  rw [Lexer.inFlow, inside, hkeys]
  rfl

-- A key that is in mind outside the brackets is not lost behind the first of them.
theorem Spot.prepare_inside (h : s.Spot n text) (start : Token) (hcontent : StartsContent (s.cursor.skip 1).rest) :
    (s.inside start).prepare? = some (s.inside start) := by
  have hskip : (s.inside start).skipBlank = s.inside start := by
    rw [skipBlank, h.inside_inFlow]
    change ({ s.inside start with
      cursor := (blankFrom true true false (s.cursor.skip 1) (s.cursor.skip 1).rest).1
      keyAllowed := (blankFrom true true false (s.cursor.skip 1) (s.cursor.skip 1).rest).2 } : Lexer) = _
    rw [blankFrom_of_startsContent hcontent]
    rfl
  have hdrop : (s.inside start).dropStale = some (s.inside start) := by
    obtain ⟨key?, hkeys, hfresh⟩ := h.saved_keys
    refine dropStale_of_fresh fun key hmem => ?_
    rw [inside, hkeys, List.mem_cons, List.mem_singleton] at hmem
    rcases hmem with hmem | hmem
    · cases hmem
    · exact hfresh key hmem.symm (s.cursor.skip 1) rfl (Nat.add_le_add_left (by decide) _)
  rw [prepare?, hskip, hdrop, Option.map_some, unroll, h.inside_inFlow, if_pos rfl]

theorem Spot.closeFlow_inside (h : s.Spot n text) (start stop : Token) :
    (s.inside start).closeFlow stop = some ((s.behind (s.cursor.skip 2) false start).emit stop) := by
  have hdrop : (s.inside start).dropKey = some (s.inside start) := rfl
  have htwo : s.cursor.skip 2 = (s.cursor.skip 1).skip 1 := by simp [Cursor.skip]
  rw [closeFlow, hdrop, Option.bind_eq_bind, Option.bind_some, h.inside_inFlow, if_pos rfl, htwo]
  rfl

-- Two brackets with nothing between them.
theorem Spot.leads_brackets {a z : Char} {start stop : Token} {rest : List Char} (h : s.Spot n (a :: z :: rest))
    (hcontent : StartsContent (z :: rest))
    (hopen : s.fetch a (z :: rest) = s.openFlow start)
    (hclose : ∀ t : Lexer, t.cursor.rest = z :: rest → t.fetch z rest = t.closeFlow stop) :
    Leads s ((s.behind (s.cursor.skip 2) false start).emit stop) := by
  have hrest : (s.cursor.skip 1).rest = z :: rest := by
    rw [Cursor.skip, h.rest]
    rfl
  have hfirst : Leads s (s.inside start) :=
    leads_of_fetch h.prepare h.rest (hopen.trans (h.openFlow start)) (Nat.le_of_eq (congrArg List.length hrest))
  have hsecond : Leads (s.inside start) ((s.behind (s.cursor.skip 2) false start).emit stop) := by
    refine leads_of_fetch (h.prepare_inside start (hrest.symm ▸ hcontent)) hrest
      ((hclose _ hrest).trans (h.closeFlow_inside start stop)) (Nat.le_of_eq ?_)
    change (s.cursor.skip 2).rest.length = rest.length
    rw [Cursor.skip, h.rest]
    rfl
  exact hfirst.trans hsecond

end

end ChatAssistant.Yaml.Lexer
