import ChatAssistant.Proofs.Json.Numeral
import Mathlib.Data.List.Chain

/-!
# Spellings of JSON tokens

What it is for a text to write a list of tokens: each token in one of its spellings, with white space
before, between and after them.  The machine that cuts a text into tokens finds just the tokens that the
text writes, provided that no two words or numbers stand side by side; in a document they never do.
-/

namespace ChatAssistant.Json

open ChatAssistant.Number

/-! ## Spellings -/

/-- The number that hexadecimal digits write. -/
def hexNumber? (ds : List Char) : Option Nat :=
  ds.foldlM (fun n c => (hexValue? c).map (n * 16 + ·)) 0

/-- The inside of a string: characters that stand for themselves, one-letter escapes and code units of
four digits. -/
inductive PiecesSpelled : List Piece → List Char → Prop
  | nil : PiecesSpelled [] []
  | char {c : Char} {pieces : List Piece} {cs : List Char} :
      c ≠ '"' → c ≠ '\\' → 0x20 ≤ c.toNat → PiecesSpelled pieces cs →
        PiecesSpelled (.char c :: pieces) (c :: cs)
  | escape {letter c : Char} {pieces : List Piece} {cs : List Char} :
      shortEscape? letter = some c → PiecesSpelled pieces cs →
        PiecesSpelled (.char c :: pieces) ('\\' :: letter :: cs)
  | unit {ds : List Char} {u : Nat} {pieces : List Piece} {cs : List Char} :
      ds.length = 4 → hexNumber? ds = some u → PiecesSpelled pieces cs →
        PiecesSpelled (.unit u :: pieces) ('\\' :: 'u' :: (ds ++ cs))

inductive Token.Spelled : Token → List Char → Prop
  | openObject : Spelled .openObject ['\x7b']
  | closeObject : Spelled .closeObject ['\x7d']
  | openArray : Spelled .openArray ['[']
  | closeArray : Spelled .closeArray [']']
  | colon : Spelled .colon [':']
  | comma : Spelled .comma [',']
  | null : Spelled .null ['n', 'u', 'l', 'l']
  | trueWord : Spelled (.bool true) ['t', 'r', 'u', 'e']
  | falseWord : Spelled (.bool false) ['f', 'a', 'l', 's', 'e']
  | number {t : DecimalText} {cs : List Char} : NumberSpelled t cs → Spelled (.number t) cs
  | string {pieces : List Piece} {cs : List Char} :
      PiecesSpelled pieces cs → Spelled (.string pieces) ('"' :: (cs ++ ['"']))

/-- A text that writes tokens. -/
inductive Writes : List Char → List Token → Prop
  | nil : Writes [] []
  | space {c : Char} {cs : List Char} {tokens : List Token} :
      isSpace c = true → Writes cs tokens → Writes (c :: cs) tokens
  | token {token : Token} {lexeme cs : List Char} {tokens : List Token} :
      token.Spelled lexeme → Writes cs tokens → Writes (lexeme ++ cs) (token :: tokens)

/-- Words and numbers end only where another token or white space begins. -/
def Token.isBare : Token → Bool
  | .null | .bool _ | .number _ => true
  | _ => false

/-- No two words or numbers stand side by side. -/
def Apart (tokens : List Token) : Prop :=
  tokens.IsChain fun a b => a.isBare = true → b.isBare = false

/-! ## What the machine has found is written -/

theorem PiecesSpelled.append {pieces more : List Piece} {cs ds : List Char}
    (h : PiecesSpelled pieces cs) (hmore : PiecesSpelled more ds) :
    PiecesSpelled (pieces ++ more) (cs ++ ds) := by
  induction h with
  | nil => exact hmore
  | char hquote hescape hcontrol _ ih => exact .char hquote hescape hcontrol ih
  | escape hletter _ ih => exact .escape hletter ih
  | @unit us u _ _ hlength hnumber _ ih =>
    simpa only [List.cons_append, List.append_assoc] using PiecesSpelled.unit hlength hnumber ih

theorem hexNumber?_append {ds : List Char} {n d : Nat} {c : Char} (hds : hexNumber? ds = some n)
    (hc : hexValue? c = some d) : hexNumber? (ds ++ [c]) = some (n * 16 + d) := by
  unfold hexNumber? at hds ⊢
  rw [List.foldlM_append, hds]
  simp [hc]

theorem spelled_of_wordToken? {letters : List Char} {token : Token}
    (h : wordToken? letters = some token) : token.Spelled letters.reverse := by
  unfold wordToken? at h
  split at h
  · next hletters => cases h; rw [hletters]; exact .null
  split at h
  · next hletters => cases h; rw [hletters]; exact .trueWord
  split at h
  · next hletters => cases h; rw [hletters]; exact .falseWord
  · cases h

/-- The characters of an open token that have been read. -/
def Mode.HasRead : Mode → List Char → Prop
  | between, read => read = []
  | word letters, read => read = letters.reverse
  | number chars, read => read = chars.reverse
  | string pieces, read => ∃ cs, PiecesSpelled pieces.reverse cs ∧ read = '"' :: cs
  | escape pieces, read => ∃ cs, PiecesSpelled pieces.reverse cs ∧ read = '"' :: (cs ++ ['\\'])
  | hex pieces missing value, read =>
    ∃ cs ds, PiecesSpelled pieces.reverse cs ∧ hexNumber? ds = some value ∧
      ds.length + missing = 4 ∧ 0 < missing ∧ read = '"' :: (cs ++ '\\' :: 'u' :: ds)

/-- What a step leaves is read on: whatever the rest of the text writes, the text from the open token on
writes it after the tokens that ended. -/
def Mode.Continues (read : List Char) (next : Mode × List Token) : Prop :=
  ∃ nextRead, next.1.HasRead nextRead ∧
    ∀ rest tokens, Writes (nextRead ++ rest) tokens → Writes (read ++ rest) (next.2 ++ tokens)

theorem continues_startToken {c : Char} {next : Mode × List Token} (h : startToken c = some next) :
    Mode.Continues [c] next := by
  have hstructural : ∀ {token : Token}, token.Spelled [c] →
      Mode.Continues [c] (.between, [token]) := fun hspelled =>
    ⟨[], rfl, fun _ _ hrest => .token hspelled hrest⟩
  unfold startToken at h
  split at h
  · next hspace => cases h; exact ⟨[], rfl, fun _ _ hrest => .space hspace hrest⟩
  split at h
  · next hc => cases h; subst hc; exact hstructural .openObject
  split at h
  · next hc => cases h; subst hc; exact hstructural .closeObject
  split at h
  · next hc => cases h; subst hc; exact hstructural .openArray
  split at h
  · next hc => cases h; subst hc; exact hstructural .closeArray
  split at h
  · next hc => cases h; subst hc; exact hstructural .colon
  split at h
  · next hc => cases h; subst hc; exact hstructural .comma
  split at h
  · next hc => cases h; subst hc; exact ⟨['"'], ⟨[], .nil, rfl⟩, fun _ _ hrest => hrest⟩
  split at h
  · cases h; exact ⟨[c], rfl, fun _ _ hrest => hrest⟩
  split at h
  · cases h; exact ⟨[c], rfl, fun _ _ hrest => hrest⟩
  · cases h

-- A word or a number ends with the first character after it, which starts what comes next.
theorem Mode.Continues.after {read : List Char} {c : Char} {token : Token}
    {next : Mode × List Token} (h : Mode.Continues [c] next) (hspelled : token.Spelled read) :
    Mode.Continues (read ++ [c]) (next.1, token :: next.2) := by
  obtain ⟨nextRead, hread, hwrites⟩ := h
  refine ⟨nextRead, hread, fun rest tokens hrest => ?_⟩
  rw [List.append_assoc]
  exact .token hspelled (hwrites rest tokens hrest)

theorem continues_of_read {read : List Char} {mode : Mode} (h : mode.HasRead read) :
    Mode.Continues read (mode, []) :=
  ⟨read, h, fun _ _ hrest => hrest⟩

theorem continues_string {read : List Char} {pieces : List Piece} {c : Char}
    {next : Mode × List Token} (hread : (Mode.string pieces).HasRead read)
    (h : (Mode.string pieces).step c = some next) : Mode.Continues (read ++ [c]) next := by
  obtain ⟨cs, hcs, rfl⟩ := hread
  simp only [Mode.step] at h
  split at h
  · next hquote =>
    cases h
    subst hquote
    exact ⟨[], rfl, fun rest tokens hrest => .token (.string hcs) hrest⟩
  split at h
  · next hescape =>
    cases h
    subst hescape
    exact continues_of_read ⟨cs, hcs, rfl⟩
  split at h
  · cases h
  · next hquote hescape hcontrol =>
    cases h
    refine continues_of_read ⟨cs ++ [c], ?_, rfl⟩
    rw [List.reverse_cons]
    exact hcs.append (.char hquote hescape (by omega) .nil)

theorem continues_escape {read : List Char} {pieces : List Piece} {c : Char}
    {next : Mode × List Token} (hread : (Mode.escape pieces).HasRead read)
    (h : (Mode.escape pieces).step c = some next) : Mode.Continues (read ++ [c]) next := by
  obtain ⟨cs, hcs, rfl⟩ := hread
  simp only [Mode.step] at h
  split at h
  · next hunit =>
    cases h
    subst hunit
    exact continues_of_read ⟨cs, [], hcs, rfl, rfl, by decide, by simp⟩
  · obtain ⟨d, hd, rfl⟩ := Option.map_eq_some_iff.mp h
    refine continues_of_read ⟨cs ++ ['\\', c], ?_, by simp⟩
    rw [List.reverse_cons]
    exact hcs.append (.escape hd .nil)

theorem continues_hex {read : List Char} {pieces : List Piece} {missing value : Nat} {c : Char}
    {next : Mode × List Token} (hread : (Mode.hex pieces missing value).HasRead read)
    (h : (Mode.hex pieces missing value).step c = some next) :
    Mode.Continues (read ++ [c]) next := by
  obtain ⟨cs, ds, hcs, hds, hlength, hmissing, rfl⟩ := hread
  simp only [Mode.step] at h
  obtain ⟨d, hd, hnext⟩ := Option.map_eq_some_iff.mp h
  have hnumber := hexNumber?_append hds hd
  split at hnext <;> cases hnext
  · refine continues_of_read ⟨cs ++ '\\' :: 'u' :: (ds ++ [c]), ?_, by simp⟩
    rw [List.reverse_cons]
    refine hcs.append ?_
    have hunit := PiecesSpelled.unit (by simp; omega) hnumber .nil
    rwa [List.append_nil] at hunit
  · exact continues_of_read ⟨cs, ds ++ [c], hcs, hnumber, by simp; omega, by omega, by simp⟩

theorem Mode.HasRead.step {mode : Mode} {read : List Char} {c : Char} {next : Mode × List Token}
    (hread : mode.HasRead read) (h : mode.step c = some next) :
    Mode.Continues (read ++ [c]) next := by
  cases mode with
  | between =>
    cases hread
    exact continues_startToken h
  | word letters =>
    cases hread
    simp only [Mode.step] at h
    split at h
    · cases h
      exact continues_of_read (by simp [HasRead])
    · simp only [Option.bind_eq_bind, Option.bind_eq_some_iff] at h
      obtain ⟨token, htoken, start, hstart, hnext⟩ := h
      cases hnext
      exact (continues_startToken hstart).after (spelled_of_wordToken? htoken)
  | number chars =>
    cases hread
    simp only [Mode.step] at h
    split at h
    · cases h
      exact continues_of_read (by simp [HasRead])
    · simp only [Option.bind_eq_bind, Option.bind_eq_some_iff] at h
      obtain ⟨t, ht, start, hstart, hnext⟩ := h
      cases hnext
      exact (continues_startToken hstart).after (.number (numberText?_eq_some_iff.mp ht))
  | string => exact continues_string hread h
  | escape => exact continues_escape hread h
  | hex => exact continues_hex hread h

theorem Mode.HasRead.finish {mode : Mode} {read : List Char} {tokens : List Token}
    (hread : mode.HasRead read) (h : mode.finish = some tokens) : Writes read tokens := by
  have hlast : ∀ {token : Token}, token.Spelled read → Writes read [token] := fun hspelled => by
    simpa using Writes.token hspelled .nil
  cases mode with
  | between => cases hread; cases h; exact .nil
  | word letters =>
    cases hread
    obtain ⟨token, htoken, rfl⟩ := Option.map_eq_some_iff.mp h
    exact hlast (spelled_of_wordToken? htoken)
  | number chars =>
    cases hread
    obtain ⟨t, ht, rfl⟩ := Option.map_eq_some_iff.mp h
    exact hlast (.number (numberText?_eq_some_iff.mp ht))
  | string | escape | hex => cases h

theorem writes_of_tokensFrom {cs read : List Char} {mode : Mode} {tokens : List Token}
    (hread : mode.HasRead read) (h : tokensFrom mode cs = some tokens) :
    Writes (read ++ cs) tokens := by
  induction cs generalizing read mode tokens with
  | nil => rw [List.append_nil]; exact hread.finish h
  | cons c rest ih =>
    rw [tokensFrom] at h
    split at h
    · cases h
    · next next out hstep =>
      obtain ⟨more, hmore, rfl⟩ := Option.map_eq_some_iff.mp h
      obtain ⟨nextRead, hnext, hwrites⟩ := hread.step hstep
      rw [List.append_cons]
      exact hwrites rest more (ih hnext hmore)

/-! ## What is written is found -/

theorem tokensFrom_cons_of_step {mode next : Mode} {c : Char} {out : List Token}
    (h : mode.step c = some (next, out)) (rest : List Char) :
    tokensFrom mode (c :: rest) = (tokensFrom next rest).map (out ++ ·) := by
  rw [tokensFrom, h]

theorem tokensFrom_between_mark {c : Char} {token : Token}
    (h : startToken c = some (.between, [token])) (rest : List Char) :
    tokensFrom .between ([c] ++ rest) = (tokensFrom .between rest).map (token :: ·) :=
  tokensFrom_cons_of_step (show Mode.between.step c = _ from h) rest

-- Inside a token nothing comes out.
theorem tokensFrom_cons_of_silent (mode next : Mode) {c : Char}
    (h : mode.step c = some (next, [])) (rest : List Char) :
    tokensFrom mode (c :: rest) = tokensFrom next rest := by
  rw [tokensFrom_cons_of_step h]
  exact congrFun Option.map_id _

theorem tokensFrom_hex {pieces : List Piece} {ds : List Char} {missing value u : Nat}
    (hlength : ds.length = missing) (hmissing : 0 < missing)
    (hu : ds.foldlM (fun n c => (hexValue? c).map (n * 16 + ·)) value = some u)
    (rest : List Char) :
    tokensFrom (.hex pieces missing value) (ds ++ rest) =
      tokensFrom (.string (.unit u :: pieces)) rest := by
  induction ds generalizing missing value with
  | nil => simp at hlength; omega
  | cons c more ih =>
    rw [List.foldlM_cons] at hu
    obtain ⟨next, hnext, hmore⟩ := Option.bind_eq_some_iff.mp hu
    obtain ⟨d, hd, rfl⟩ := Option.map_eq_some_iff.mp hnext
    rw [List.length_cons] at hlength
    rw [List.cons_append]
    cases more with
    | nil =>
      cases hmore
      refine tokensFrom_cons_of_silent _ _ ?_ rest
      have hlast : missing ≤ 1 := by simp at hlength; omega
      simp [Mode.step, hd, hlast]
    | cons c' more =>
      have hmany : ¬ missing ≤ 1 := by simp at hlength; omega
      rw [tokensFrom_cons_of_silent _ (.hex pieces (missing - 1) (value * 16 + d))
        (by simp [Mode.step, hd, hmany])]
      exact ih (by omega) (by omega) hmore

theorem shortEscape?_ne {letter c : Char} (h : shortEscape? letter = some c) : letter ≠ 'u' := by
  rintro rfl
  cases h

theorem PiecesSpelled.tokensFrom_string {pieces : List Piece} {cs : List Char}
    (h : PiecesSpelled pieces cs) (before : List Piece) (rest : List Char) :
    tokensFrom (.string before) (cs ++ '"' :: rest) =
      (tokensFrom .between rest).map (.string (before.reverse ++ pieces) :: ·) := by
  induction h generalizing before with
  | nil =>
    have hstep : (Mode.string before).step '"' = some (.between, [.string before.reverse]) := by
      simp [Mode.step]
    rw [List.nil_append, tokensFrom_cons_of_step hstep, List.append_nil]
    rfl
  | @char c pieces cs hquote hescape hcontrol _ ih =>
    have hstep : (Mode.string before).step c = some (.string (.char c :: before), []) := by
      simp [Mode.step, hquote, hescape, hcontrol]
    rw [List.cons_append, tokensFrom_cons_of_silent _ _ hstep, ih, List.reverse_cons,
      List.append_assoc, List.singleton_append]
  | @escape letter c pieces cs hletter _ ih =>
    have hstep : (Mode.escape before).step letter = some (.string (.char c :: before), []) := by
      simp [Mode.step, hletter, shortEscape?_ne hletter]
    rw [List.cons_append, List.cons_append,
      tokensFrom_cons_of_silent (.string before) (.escape before) (by simp [Mode.step]),
      tokensFrom_cons_of_silent _ _ hstep, ih, List.reverse_cons, List.append_assoc,
      List.singleton_append]
  | @unit ds u pieces cs hlength hnumber _ ih =>
    rw [List.cons_append, List.cons_append, List.append_assoc,
      tokensFrom_cons_of_silent (.string before) (.escape before) (by simp [Mode.step]),
      tokensFrom_cons_of_silent (.escape before) (.hex before 4 0) (by simp [Mode.step]),
      tokensFrom_hex hlength (by decide) hnumber, ih, List.reverse_cons, List.append_assoc,
      List.singleton_append]

-- A word or a number that ends here leaves the machine where no token is open.
theorem tokensFrom_of_ends {mode : Mode} {token : Token} {rest : List Char}
    (hfinish : mode.finish = some [token])
    (hstep : ∀ c, rest.head? = some c →
      mode.step c = (startToken c).map fun next => (next.1, token :: next.2)) :
    tokensFrom mode rest = (tokensFrom .between rest).map (token :: ·) := by
  cases rest with
  | nil => exact hfinish
  | cons c more =>
    rw [tokensFrom, tokensFrom, hstep c rfl]
    simp only [Mode.step]
    cases startToken c with
    | none => rfl
    | some next =>
      simp only [Option.map_some, Option.map_map]
      rfl

theorem tokensFrom_word {letters : List Char} {token : Token} {rest : List Char}
    (h : wordToken? letters = some token)
    (hrest : ∀ c, rest.head? = some c → c.isLower = false) :
    tokensFrom (.word letters) rest = (tokensFrom .between rest).map (token :: ·) := by
  refine tokensFrom_of_ends (by simp [Mode.finish, h]) fun c hc => ?_
  simp only [Mode.step, hrest c hc, Bool.false_eq_true, if_false, h, Option.bind_eq_bind,
    Option.bind_some]
  cases startToken c <;> rfl

theorem tokensFrom_number {t : DecimalText} {chars cs rest : List Char}
    (h : numberText? (chars.reverse ++ cs) = some t) (hcs : ∀ c ∈ cs, isNumberChar c = true)
    (hrest : ∀ c, rest.head? = some c → isNumberChar c = false) :
    tokensFrom (.number chars) (cs ++ rest) =
      (tokensFrom .between rest).map (.number t :: ·) := by
  induction cs generalizing chars with
  | nil =>
    rw [List.append_nil] at h
    refine tokensFrom_of_ends (by simp [Mode.finish, h]) fun c hc => ?_
    simp only [Mode.step, hrest c hc, Bool.false_eq_true, if_false, h, Option.bind_eq_bind,
      Option.bind_some]
    cases startToken c <;> rfl
  | cons c more ih =>
    have hc : isNumberChar c = true := hcs c List.mem_cons_self
    rw [List.cons_append, tokensFrom_cons_of_silent _ (.number (c :: chars))
      (by simp [Mode.step, hc])]
    refine ih ?_ fun d hd => hcs d (List.mem_cons_of_mem _ hd)
    rwa [List.reverse_cons, List.append_assoc, List.singleton_append]

theorem startToken_of_isNumberStart {c : Char} (h : (c.isDigit || c == '-') = true) :
    startToken c = some (.number [c], []) := by
  have hne : ∀ d : Char, (d.isDigit || d == '-') = false → c ≠ d := by
    rintro d hd rfl
    rw [h] at hd
    cases hd
  have hspace : isSpace c = false := by
    simp [isSpace, hne ' ' (by decide), hne '\t' (by decide), hne '\n' (by decide),
      hne '\r' (by decide)]
  have hlower : c.isLower = false := by
    cases hc : c.isLower with
    | false => rfl
    | true =>
      have hc : (decide ('a'.val ≤ c.val) && decide (c.val ≤ 'z'.val)) = true := hc
      simp [Char.isDigit, UInt32.le_iff_toNat_le] at h hc
      rcases h with hdigit | rfl
      · omega
      · simp at hc
  simp only [startToken, hspace, hlower, h, hne '\x7b' (by decide), hne '\x7d' (by decide),
    hne '[' (by decide), hne ']' (by decide), hne ':' (by decide), hne ',' (by decide),
    hne '"' (by decide), Bool.false_eq_true, if_false, if_true]

theorem NumberSpelled.tokensFrom_between {t : DecimalText} {cs rest : List Char}
    (h : NumberSpelled t cs) (hrest : ∀ c, rest.head? = some c → isNumberChar c = false) :
    tokensFrom .between (cs ++ rest) = (tokensFrom .between rest).map (.number t :: ·) := by
  obtain ⟨c, more, rfl, hc⟩ := h.exists_eq_cons
  rw [List.cons_append, tokensFrom_cons_of_silent .between _ (startToken_of_isNumberStart hc)]
  exact tokensFrom_number (numberText?_eq_some_iff.mpr h)
    (fun d hd => h.all_isNumberChar d (List.mem_cons_of_mem _ hd)) hrest

theorem tokensFrom_between_word {first : Char} {more : List Char} {token : Token}
    {rest : List Char} (hfirst : startToken first = some (.word [first], []))
    (hmore : ∀ c ∈ more, c.isLower = true) (h : wordToken? (more.reverse ++ [first]) = some token)
    (hrest : ∀ c, rest.head? = some c → c.isLower = false) :
    tokensFrom .between (first :: more ++ rest) = (tokensFrom .between rest).map (token :: ·) := by
  have hletters : ∀ letters, tokensFrom (.word letters) (more ++ rest) =
      tokensFrom (.word (more.reverse ++ letters)) rest := by
    clear h
    induction more with
    | nil => exact fun _ => rfl
    | cons c more ih =>
      intro letters
      have hc : c.isLower = true := hmore c List.mem_cons_self
      rw [List.cons_append, tokensFrom_cons_of_silent _ (.word (c :: letters))
        (by simp [Mode.step, hc]), ih fun d hd => hmore d (List.mem_cons_of_mem _ hd),
        List.reverse_cons, List.append_assoc, List.singleton_append]
  rw [List.cons_append, tokensFrom_cons_of_silent .between _ hfirst, hletters]
  exact tokensFrom_word h hrest

/-- What may follow a word or a number. -/
def Ends (rest : List Char) : Prop :=
  ∀ c, rest.head? = some c → c.isLower = false ∧ isNumberChar c = false

theorem Token.Spelled.tokensFrom_between {token : Token} {lexeme rest : List Char}
    (h : token.Spelled lexeme) (hrest : token.isBare = true → Ends rest) :
    tokensFrom .between (lexeme ++ rest) = (tokensFrom .between rest).map (token :: ·) := by
  cases h with
  | openObject | closeObject | openArray | closeArray | colon | comma =>
    exact tokensFrom_between_mark rfl rest
  | null | trueWord | falseWord =>
    exact tokensFrom_between_word rfl (List.all_eq_true.mp rfl) rfl fun c hc => (hrest rfl c hc).1
  | number hspelled => exact hspelled.tokensFrom_between fun c hc => (hrest rfl c hc).2
  | string hpieces =>
    rw [List.cons_append, List.append_assoc,
      tokensFrom_cons_of_silent .between (.string []) rfl]
    exact hpieces.tokensFrom_string [] rest

theorem ends_of_isSpace {c : Char} (h : isSpace c = true) (rest : List Char) : Ends (c :: rest) := by
  intro d hd
  cases hd
  simp only [isSpace, Bool.or_eq_true, beq_iff_eq] at h
  rcases h with ((rfl | rfl) | rfl) | rfl <;> decide

theorem Token.Spelled.ends {token : Token} {lexeme : List Char} (h : token.Spelled lexeme)
    (hbare : token.isBare = false) (rest : List Char) : Ends (lexeme ++ rest) := by
  intro c hc
  cases h with
  | openObject | closeObject | openArray | closeArray | colon | comma | string =>
    cases hc; decide
  | null | trueWord | falseWord | number => cases hbare

theorem Writes.ends {cs : List Char} {tokens : List Token} (h : Writes cs tokens)
    (htokens : ∀ token, tokens.head? = some token → token.isBare = false) : Ends cs := by
  cases h with
  | nil => intro c hc; cases hc
  | space hc => exact ends_of_isSpace hc _
  | token hspelled => exact hspelled.ends (htokens _ rfl) _

theorem Writes.tokensFrom_between {cs : List Char} {tokens : List Token} (h : Writes cs tokens)
    (hapart : Apart tokens) : tokensFrom .between cs = some tokens := by
  induction h with
  | nil => rfl
  | @space c _ _ hc _ ih =>
    have hstep : Mode.between.step c = some (.between, []) := by simp [Mode.step, startToken, hc]
    rw [tokensFrom_cons_of_silent _ _ hstep]
    exact ih hapart
  | @token token lexeme cs tokens hspelled hwrites ih =>
    have hends : token.isBare = true → Ends cs := fun hbare => 
      hwrites.ends fun next hnext => hapart.rel_head? hnext hbare
    rw [hspelled.tokensFrom_between hends, ih hapart.tail, Option.map_some]

/-- The first token of a text stands behind white space. -/
theorem Writes.exists_first {cs : List Char} {token : Token} {tokens : List Token} (h : Writes cs (token :: tokens)) :
    ∃ blanks lexeme rest, cs = blanks ++ (lexeme ++ rest) ∧ (∀ c ∈ blanks, isSpace c = true) ∧
      token.Spelled lexeme ∧ Writes rest tokens := by
  generalize htokens : token :: tokens = all at h
  induction h with
  | nil => cases htokens
  | @space c _ _ hc _ ih =>
    obtain ⟨blanks, lexeme, rest, rfl, hblanks, hspelled, hrest⟩ := ih htokens
    exact ⟨c :: blanks, lexeme, rest, rfl, List.forall_mem_cons.mpr ⟨hc, hblanks⟩, hspelled, hrest⟩
  | @token _ lexeme cs _ hspelled hwrites =>
    cases htokens
    exact ⟨[], lexeme, cs, rfl, List.forall_mem_nil _, hspelled, hwrites⟩

/-- The machine finds the tokens that a text writes. -/
theorem tokens?_eq_some_iff {s : String} {tokens : List Token} (hapart : Apart tokens) :
    tokens? s = some tokens ↔ Writes s.toList tokens :=
  ⟨fun h => writes_of_tokensFrom (show Mode.between.HasRead [] from rfl) h,
    fun h => h.tokensFrom_between hapart⟩

end ChatAssistant.Json
