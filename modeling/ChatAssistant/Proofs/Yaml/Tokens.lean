import ChatAssistant.Proofs.Yaml.Numerals
import ChatAssistant.Proofs.Yaml.Strings

/-!
# The tokens of values

The tokens of the text of a value, by recursion on the value.  A list right below a simple key has no tokens
for its start and its end, since it is indented no further than the key.
-/

namespace ChatAssistant.Yaml

mutual

/-- The tokens of a value.  `indentless` says that a list is indented no further than what is around it. -/
def valueTokens (indentless : Bool) : Json.Value → List Token
  | .null => [.scalar true "null"]
  | .bool true => [.scalar true "true"]
  | .bool false => [.scalar true "false"]
  | .number n => [.scalar true (String.ofList (writeNumber n))]
  | .string s => [stringToken s]
  | .array items =>
    if items.isEmpty then [.openSequence, .closeSequence]
    else if indentless then itemTokens items
    else .blockSequence :: (itemTokens items ++ [.blockEnd])
  | .object members =>
    if members.isEmpty then [.openMapping, .closeMapping]
    else .blockMapping :: (memberTokens members ++ [.blockEnd])

/-- The tokens of the items of a list. -/
def itemTokens : List Json.Value → List Token
  | [] => []
  | item :: rest => .blockEntry :: (valueTokens false item ++ itemTokens rest)

/-- The tokens of the entries of a mapping. -/
def memberTokens : List (String × Json.Value) → List Token
  | [] => []
  | (key, value) :: rest =>
    .key :: stringToken key :: .value :: (valueTokens (isSimpleKey key) value ++ memberTokens rest)

end

/-! ## Where content starts -/

theorem startsContent_of_isFigure {c : Char} (h : isFigure c = true) (more : List Char) :
    StartsContent (c :: more) := by
  have hbreak : isBreak c = false := Bool.eq_false_iff.mpr fun hbreak => by
    have := isAnyBreak_of_isFigure h
    rw [isAnyBreak_of_isBreak hbreak] at this
    cases this
  exact ⟨isBlank_of_isFigure h, hbreak, ne_of_isFigure h rfl, ne_of_isFigure h (by decide)⟩

theorem PlainString.startsContent {cs : List Char} (h : PlainString cs) (more : List Char) :
    StartsContent (cs ++ more) := by
  cases cs with
  | nil => exact absurd rfl h.ne_nil
  | cons c cs =>
    have hmark : c ≠ byteOrderMark := by
      rintro rfl
      exact absurd (h.visible byteOrderMark List.mem_cons_self) (by decide)
    have hsign : c ≠ '#' := by
      rintro rfl
      exact absurd h.start (by simp [startsWithIndicator])
    exact ⟨by simpa using h.first, h.line c List.mem_cons_self, hsign, hmark⟩

theorem startsContent_inlineString (indent : Nat) {s : String} (h : styleOf s ≠ .literal) (more : List Char) :
    StartsContent (inlineString indent (styleOf s) s ++ more) := by
  cases hstyle : styleOf s with
  | plain => exact (plainString_of_styleOf hstyle).1.startsContent more
  | single => exact ⟨rfl, rfl, by decide, by decide⟩
  | double => exact ⟨rfl, rfl, by decide, by decide⟩
  | literal => exact absurd hstyle h

theorem startsContent_writeString (indent : Nat) (s : String) (more : List Char) :
    StartsContent (writeString indent s ++ more) := by
  rw [writeString]
  cases hstyle : styleOf s with
  | literal => exact ⟨rfl, rfl, by decide, by decide⟩
  | plain | single | double =>
    have hne : styleOf s ≠ .literal := by rw [hstyle]; decide
    have := startsContent_inlineString indent hne ('\n' :: more)
    rw [hstyle] at this
    simpa using this

theorem startsContent_writeEntries {n : Nat} {members : List (String × Json.Value)} (h : members ≠ [])
    (more : List Char) : StartsContent (writeEntries n true members ++ more) := by
  cases members with
  | nil => exact absurd rfl h
  | cons member rest =>
    obtain ⟨key, value⟩ := member
    rw [writeEntries, if_pos rfl, List.nil_append, placeEntry]
    split
    · next hsimple =>
      have hline := fun more => startsContent_inlineString (n + 2) (ne_literal_of_isSimpleKey hsimple) more
      dsimp only
      split
      · simpa using hline _
      · split <;> simpa using hline _
    · exact ⟨rfl, rfl, by decide, by decide⟩

theorem startsContent_writeItems {n : Nat} {items : List Json.Value} (h : items ≠ []) (more : List Char) :
    StartsContent (writeItems n true items ++ more) := by
  cases items with
  | nil => exact absurd rfl h
  | cons item rest =>
    rw [writeItems, if_pos rfl, List.nil_append]
    exact ⟨rfl, rfl, by decide, by decide⟩

theorem startsContent_writeValue (outer n : Nat) (v : Json.Value) (more : List Char) :
    StartsContent (writeValue outer n v ++ more) := by
  cases v with
  | null => exact ⟨rfl, rfl, by decide, by decide⟩
  | bool b => cases b <;> exact ⟨rfl, rfl, by decide, by decide⟩
  | number x =>
    obtain ⟨hplain, hfigures⟩ := writeNumber_figures x
    rw [writeValue]
    cases hx : writeNumber x with
    | nil => exact absurd hx hplain.ne_nil
    | cons c cs => exact startsContent_of_isFigure (hfigures c (hx ▸ List.mem_cons_self)) _
  | string s =>
    rw [writeValue]
    exact startsContent_writeString _ s more
  | array items =>
    rw [writeValue]
    split
    · exact ⟨rfl, rfl, by decide, by decide⟩
    · next hsome => exact startsContent_writeItems (by simpa using hsome) more
  | object members =>
    rw [writeValue]
    split
    · exact ⟨rfl, rfl, by decide, by decide⟩
    · next hsome => exact startsContent_writeEntries (by simpa using hsome) more

namespace Lexer

variable {s : Lexer} {n outer k : Nat} {rest : List Char}

/-! ## Values on one line -/

-- Two brackets and the end of their line.
theorem Spot.leads_empty {a z : Char} {start stop : Token} (h : s.Spot n (a :: z :: '\n' :: (spaces k ++ rest)))
    (hn : s.indent < n) (hz : StartsContent (z :: '\n' :: (spaces k ++ rest)))
    (hopen : s.fetch a (z :: '\n' :: (spaces k ++ rest)) = s.openFlow start)
    (hclose : ∀ t : Lexer, t.cursor.rest = z :: '\n' :: (spaces k ++ rest) →
      t.fetch z ('\n' :: (spaces k ++ rest)) = t.closeFlow stop)
    (hcontent : StartsContent rest) :
    ∃ p : Cursor, p.rest = rest ∧ p.column = k ∧ Leads s (s.onto p true [start, stop]) := by
  have hp : (s.cursor.skip 2).rest = '\n' :: (spaces k ++ rest) := by
    rw [Cursor.skip, h.rest]
    rfl
  have hnext : ((s.cursor.skip 2).past ('\n' :: spaces k) rest).rest = rest := Cursor.rest_past hp
  have hlater := (s.cursor.skip 2).line_lt_past_newLine k rest
  refine ⟨(s.cursor.skip 2).past ('\n' :: spaces k) rest, hnext, (s.cursor.skip 2).column_past_newLine k rest, ?_⟩
  have honto : ∀ p q : Cursor, ((s.behind p false start).emit stop).onto q true [] = s.onto q true [start, stop] := by
    intro p q
    rw [behind, saved]
    split <;> rfl
  rw [← honto (s.cursor.skip 2)]
  refine (h.leads_brackets hz hopen hclose).trans (leads_onto ?_ ?_ ?_ (hnext.symm ▸ hcontent))
  · change blankFrom false false false (s.cursor.skip 2) (s.cursor.skip 2).rest = _
    rw [hp]
    exact blankFrom_newLine hcontent
  · exact h.behind_forgets hn (p := s.cursor.skip 2) (b := false) (t := start) hlater
  · change _ ≤ (s.cursor.skip 2).rest.length
    rw [hnext, hp, List.length_cons, List.length_append]
    omega

-- The words of the three constants are plain scalars.
theorem plainText_words : PlainText "null".toList ∧ PlainText "true".toList ∧ PlainText "false".toList := by
  refine ⟨⟨?_, eq_false_of_mem rfl, ?_, ?_, ?_, ?_⟩, ⟨?_, eq_false_of_mem rfl, ?_, ?_, ?_, ?_⟩,
    ⟨?_, eq_false_of_mem rfl, ?_, ?_, ?_, ?_⟩⟩ <;> decide

-- A value without lines of its own is read up to the next content.
theorem Spot.leads_inline {v : Json.Value} {m : Nat} (b : Bool) (hseq : isBlockSequence v = false)
    (hmap : isBlockMapping v = false) (h : s.Spot n (writeValue outer m v ++ (spaces k ++ rest)))
    (hindent : s.indent = outer) (hn : outer < n) (hk : k ≤ outer) (hcontent : StartsContent rest) :
    ∃ p : Cursor, p.rest = rest ∧ p.column = k ∧ Leads s (s.onto p true (valueTokens b v)) := by
  have hlt : s.indent < n := by omega
  obtain ⟨hnull, htrue, hfalse⟩ := plainText_words
  cases v with
  | null => exact h.leads_plain hnull hindent hn hk hcontent
  | bool truth =>
    cases truth with
    | true => exact h.leads_plain htrue hindent hn hk hcontent
    | false => exact h.leads_plain hfalse hindent hn hk hcontent
  | number x =>
    rw [writeValue, List.append_assoc] at h
    exact h.leads_plain (writeNumber_figures x).1 hindent hn hk hcontent
  | string text =>
    rw [writeValue] at h
    exact h.leads_string hindent hn hk hcontent
  | array items =>
    cases items with
    | cons item items => cases hseq
    | nil =>
      have h : s.Spot n ('[' :: ']' :: '\n' :: (spaces k ++ rest)) := h
      refine h.leads_empty hlt ⟨rfl, rfl, by decide, by decide⟩ ?_ (fun t hclosed => ?_) hcontent
      · simp [fetch, atDocumentMark_of_head h.rest (.inl (by decide))]
      · simp [fetch, atDocumentMark_of_head hclosed (.inl (by decide))]
  | object members =>
    cases members with
    | cons member members => cases hmap
    | nil =>
      have h : s.Spot n ('\x7b' :: '\x7d' :: '\n' :: (spaces k ++ rest)) := h
      refine h.leads_empty hlt ⟨rfl, rfl, by decide, by decide⟩ ?_ (fun t hclosed => ?_) hcontent
      · simp [fetch, atDocumentMark_of_head h.rest (.inl (by decide))]
      · simp [fetch, atDocumentMark_of_head hclosed (.inl (by decide))]

/-! ## Signs -/

theorem spot_onto {p : Cursor} {text : List Char} (b : Bool) (tokens : List Token) (hrest : p.rest = text)
    (hcolumn : p.column = n) (hindent : s.indent ≤ n) (hcontent : StartsContent text) :
    (s.onto p b tokens).Spot n text := ⟨hrest, hcolumn, rfl, hindent, hcontent⟩

-- Behind a sign and a blank there is a place two columns further right.
theorem Spot.leads_sign {c : Char} {text : List Char} {t : Lexer} {tokens : List Token}
    (h : s.Spot n (c :: ' ' :: text)) (hcontent : StartsContent text) (hindent : t.indent = n)
    (hfetch : s.fetch c (' ' :: text) = some (t.onto (s.cursor.skip 1) true tokens)) :
    ∃ q : Cursor, (t.onto q true tokens).Spot (n + 2) text ∧ Leads s (t.onto q true tokens) := by
  have hrest : (s.cursor.skip 1).rest = ' ' :: text := by
    rw [Cursor.skip, h.rest]
    rfl
  refine ⟨(s.cursor.skip 1).along text, spot_onto true tokens rfl ?_ (by omega) hcontent, ?_⟩
  · change s.cursor.column + 1 + 1 = n + 2
    rw [h.column]
  · have hblank := leads_blank (s := t.onto (s.cursor.skip 1) true tokens) rfl hrest hcontent
    rw [onto_onto, List.append_nil] at hblank
    exact (leads_of_fetch h.prepare h.rest hfetch (Nat.le_of_eq (congrArg List.length hrest))).trans hblank

-- The sign of an item.
theorem Spot.leads_entry {text : List Char} (h : s.Spot n ('-' :: ' ' :: text)) (hallowed : s.keyAllowed = true)
    (hcontent : StartsContent text) :
    ∃ q : Cursor, ((s.opened n .blockSequence).onto q true [.blockEntry]).Spot (n + 2) text ∧
      Leads s ((s.opened n .blockSequence).onto q true [.blockEntry]) := by
  have hmark : s.cursor.atDocumentMark = false := by
    rw [Cursor.atDocumentMark, h.rest]
    cases text <;> simp [isDocumentMark]
  exact h.leads_sign hcontent (opened_indent h.indent _) (h.fetch_entry rfl hallowed hmark)

-- The sign of a key on lines of its own, and that of its value.
theorem Spot.leads_question {text : List Char} (h : s.Spot n ('?' :: ' ' :: text))
    (hallowed : s.keyAllowed = true) (hcontent : StartsContent text) :
    ∃ q : Cursor, ((s.opened n .blockMapping).onto q true [.key]).Spot (n + 2) text ∧
      Leads s ((s.opened n .blockMapping).onto q true [.key]) :=
  h.leads_sign hcontent (opened_indent h.indent _) (h.fetch_key rfl hallowed)

theorem Spot.leads_answer {text : List Char} (h : s.Spot n (':' :: ' ' :: text))
    (hallowed : s.keyAllowed = true) (hindent : s.indent = n) (hcontent : StartsContent text) :
    ∃ q : Cursor, (s.onto q true [.value]).Spot (n + 2) text ∧ Leads s (s.onto q true [.value]) :=
  h.leads_sign hcontent hindent (h.fetch_value rfl hallowed (by omega))

/-! ## Collections -/

-- A collection that is open already is not opened again.
theorem opened_onto {t : Lexer} (h : t.indent = n) (p : Cursor) (b : Bool) (tokens : List Token) (token : Token) :
    (t.onto p b tokens).opened n token = t.onto p b tokens :=
  opened_of_not_lt (by rw [onto_indent]; omega) token

theorem writeItems_false {n : Nat} {items : List Json.Value} (h : items ≠ []) :
    writeItems n false items = spaces n ++ writeItems n true items := by
  cases items with
  | nil => exact absurd rfl h
  | cons item items =>
    rw [writeItems, writeItems, if_pos rfl, List.nil_append]
    rfl

theorem writeEntries_false {n : Nat} {members : List (String × Json.Value)} (h : members ≠ []) :
    writeEntries n false members = spaces n ++ writeEntries n true members := by
  cases members with
  | nil => exact absurd rfl h
  | cons member members =>
    rw [writeEntries, writeEntries, if_pos rfl, List.nil_append]
    rfl

/-- From every place the value is read up to the next content, which is indented no further than what is
around the value. -/
def ValueReads (v : Json.Value) : Prop :=
  ∀ {s : Lexer} {n outer k : Nat} {rest : List Char} (b : Bool),
    s.Spot n (writeValue outer n v ++ (spaces k ++ rest)) → s.indent = outer →
    (if b && isBlockSequence v then n = outer else outer < n) →
    ((isBlockSequence v || isBlockMapping v) = true → s.keyAllowed = true) →
    k ≤ outer → StartsContent rest →
    ∃ p : Cursor, p.rest = rest ∧ p.column = k ∧ Leads s (s.onto p true (valueTokens b v))

-- The end of the line of a key.
theorem leads_newLine {p : Cursor} {text : List Char} {tokens : List Token} (hrest : p.rest = '\n' :: (spaces n ++ text))
    (hcontent : StartsContent text) (hindent : s.indent ≤ n) :
    ∃ q : Cursor, (s.onto q true tokens).Spot n text ∧ Leads (s.onto p false tokens) (s.onto q true tokens) := by
  have hnext : (p.past ('\n' :: spaces n) text).rest = text := Cursor.rest_past hrest
  refine ⟨p.past ('\n' :: spaces n) text,
    spot_onto true tokens hnext (p.column_past_newLine n text) hindent hcontent, ?_⟩
  have hleads := leads_onto (s := s.onto p false tokens) (p := p.past ('\n' :: spaces n) text) (b := true)
    (by rw [onto_cursor, onto_keyAllowed, hrest]; exact blankFrom_newLine hcontent) (.inl rfl)
    (by rw [hnext, onto_cursor, hrest, List.length_cons, List.length_append]; omega) (hnext.symm ▸ hcontent)
  rwa [onto_onto, List.append_nil] at hleads

section

variable {key : String} {value : Json.Value} {m : Nat}

-- A value on the lines below its key.
theorem Spot.leads_below (hvalue : ValueReads value) (hsimple : isSimpleKey key = true)
    (h : s.Spot n (inlineString (n + 2) (styleOf key) key ++
      ':' :: '\n' :: (spaces m ++ (writeValue n m value ++ (spaces k ++ rest)))))
    (hm : if isBlockSequence value then m = n else n < m) (hallowed : s.keyAllowed = true) (hk : k ≤ n)
    (hcontent : StartsContent rest) :
    ∃ p : Cursor, p.rest = rest ∧ p.column = k ∧
      Leads s ((s.opened n .blockMapping).onto p true
        (.key :: stringToken key :: .value :: valueTokens true value)) := by
  have hindent := opened_indent h.indent .blockMapping
  have hright : n ≤ m := by
    split at hm <;> omega
  obtain ⟨p, hrest, -, hkey⟩ := h.leads_key hsimple (Nat.succ_pos _) rfl hallowed
  obtain ⟨q, hspot, hline⟩ := leads_newLine (s := s.opened n .blockMapping) hrest
    (startsContent_writeValue n m value (spaces k ++ rest)) (by omega)
  obtain ⟨q, hrest, hcolumn, hleads⟩ := hvalue true hspot hindent (by rwa [Bool.true_and]) (fun _ => rfl) hk hcontent
  rw [onto_onto] at hleads
  exact ⟨q, hrest, hcolumn, (hkey.trans hline).trans hleads⟩

-- A value on the line of its key.
theorem Spot.leads_beside (hseq : isBlockSequence value = false) (hmap : isBlockMapping value = false)
    (hsimple : isSimpleKey key = true)
    (h : s.Spot n (inlineString (n + 2) (styleOf key) key ++
      ':' :: ' ' :: (writeValue n m value ++ (spaces k ++ rest))))
    (hallowed : s.keyAllowed = true) (hk : k ≤ n) (hcontent : StartsContent rest) :
    ∃ p : Cursor, p.rest = rest ∧ p.column = k ∧
      Leads s ((s.opened n .blockMapping).onto p true
        (.key :: stringToken key :: .value :: valueTokens true value)) := by
  have hindent := opened_indent h.indent .blockMapping
  have hstart := startsContent_writeValue n m value (spaces k ++ rest)
  obtain ⟨p, hrest, hright, hkey⟩ := h.leads_key hsimple (Nat.succ_pos _) rfl hallowed
  have hspot := spot_onto (s := s.opened n .blockMapping) (p := p.along _) false
    [.key, stringToken key, .value] rfl rfl (by change _ ≤ ((p.column + 1 : Nat) : Int); omega) hstart
  have hblank := leads_blank (s := (s.opened n .blockMapping).onto p false [.key, stringToken key, .value]) rfl
    hrest hstart
  obtain ⟨q, hrest, hcolumn, hleads⟩ :=
    hspot.leads_inline true hseq hmap hindent (Nat.lt_succ_of_lt hright) hk hcontent
  rw [onto_onto] at hleads hblank
  exact ⟨q, hrest, hcolumn, (hkey.trans hblank).trans hleads⟩

-- A key on lines of its own, and its value behind a sign.
theorem Spot.leads_apart (hvalue : ValueReads value)
    (h : s.Spot n ('?' :: ' ' :: (writeString (n + 2) key ++
      (spaces n ++ ':' :: ' ' :: (writeValue n (n + 2) value ++ (spaces k ++ rest))))))
    (hallowed : s.keyAllowed = true) (hk : k ≤ n) (hcontent : StartsContent rest) :
    ∃ p : Cursor, p.rest = rest ∧ p.column = k ∧
      Leads s ((s.opened n .blockMapping).onto p true
        (.key :: stringToken key :: .value :: valueTokens false value)) := by
  have hindent := opened_indent h.indent .blockMapping
  obtain ⟨q, hspot, hsign⟩ := h.leads_question hallowed (startsContent_writeString (n + 2) key _)
  obtain ⟨p, hrest, hcolumn, hkey⟩ := hspot.leads_string hindent (by omega) (Nat.le_refl n)
    ⟨rfl, rfl, by decide, by decide⟩
  rw [onto_onto] at hkey
  have hspot := spot_onto (s := s.opened n .blockMapping) true ([.key] ++ [stringToken key]) hrest hcolumn (by omega)
    ⟨rfl, rfl, by decide, by decide⟩
  obtain ⟨q, hspot, hanswer⟩ := hspot.leads_answer rfl hindent
    (startsContent_writeValue n (n + 2) value (spaces k ++ rest))
  rw [onto_onto] at hspot hanswer
  obtain ⟨q, hrest, hcolumn, hleads⟩ := hvalue false hspot hindent (by simp) (fun _ => rfl) hk hcontent
  rw [onto_onto] at hleads
  exact ⟨q, hrest, hcolumn, ((hsign.trans hkey).trans hanswer).trans hleads⟩

-- An entry is read up to the next content.
theorem Spot.leads_member (hvalue : ValueReads value)
    (h : s.Spot n (placeEntry n key value (fun inner => writeValue n inner value) ++ (spaces k ++ rest)))
    (hallowed : s.keyAllowed = true) (hk : k ≤ n) (hcontent : StartsContent rest) :
    ∃ p : Cursor, p.rest = rest ∧ p.column = k ∧
      Leads s ((s.opened n .blockMapping).onto p true
        (.key :: stringToken key :: .value :: valueTokens (isSimpleKey key) value)) := by
  rw [placeEntry] at h
  cases hsimple : isSimpleKey key with
  | true =>
    rw [hsimple, if_pos rfl] at h
    dsimp only at h
    cases hseq : isBlockSequence value with
    | true =>
      rw [hseq, if_pos rfl] at h
      simp only [List.append_assoc, List.cons_append, List.nil_append] at h
      exact h.leads_below hvalue hsimple (by rw [hseq, if_pos rfl]) hallowed hk hcontent
    | false =>
      rw [hseq, if_neg (by decide)] at h
      cases hmap : isBlockMapping value with
      | true =>
        rw [hmap, if_pos rfl] at h
        simp only [List.append_assoc, List.cons_append, List.nil_append] at h
        exact h.leads_below hvalue hsimple (by rw [hseq, if_neg (by decide)]; omega) hallowed hk hcontent
      | false =>
        rw [hmap, if_neg (by decide)] at h
        simp only [List.append_assoc, List.cons_append, List.nil_append] at h
        exact h.leads_beside hseq hmap hsimple hallowed hk hcontent
  | false =>
    rw [hsimple, if_neg (by decide)] at h
    simp only [List.append_assoc, List.cons_append] at h
    exact h.leads_apart hvalue hallowed hk hcontent

end

mutual

/-- Every value is read. -/
theorem valueReads (v : Json.Value) : ValueReads v := by
  intro s n outer k rest b h hindent hn hallowed hk hcontent
  match v with
  | .array (item :: items) =>
    have hkn : k ≤ n := by
      cases b <;> simp [isBlockSequence] at hn <;> omega
    obtain ⟨p, hrest, hcolumn, hleads⟩ :=
      Spot.leads_items (item :: items) h (List.cons_ne_nil _ _) (hallowed rfl) hkn hcontent
    refine ⟨p, hrest, hcolumn, ?_⟩
    cases b with
    | true =>
      have hsame : n = outer := hn
      rw [opened_of_not_lt (by omega)] at hleads
      exact hleads
    | false =>
      have hlt : outer < n := hn
      exact hleads.trans (leads_close (by omega) (by omega) (hrest.symm ▸ hcontent))
  | .object (member :: members) =>
    have hlt : outer < n := by simpa [isBlockSequence] using hn
    obtain ⟨p, hrest, hcolumn, hleads⟩ :=
      Spot.leads_members (member :: members) h (List.cons_ne_nil _ _) (hallowed rfl) (by omega) hcontent
    exact ⟨p, hrest, hcolumn, hleads.trans (leads_close (by omega) (by omega) (hrest.symm ▸ hcontent))⟩
  | .array [] | .object [] | .null | .bool _ | .number _ | .string _ =>
    exact h.leads_inline b rfl rfl hindent (by simpa [isBlockSequence] using hn) hk hcontent

/-- The items of a list are read up to the next content. -/
theorem Spot.leads_items (items : List Json.Value) {s : Lexer} {n k : Nat} {rest : List Char}
    (h : s.Spot n (writeItems n true items ++ (spaces k ++ rest))) (hsome : items ≠ [])
    (hallowed : s.keyAllowed = true) (hk : k ≤ n) (hcontent : StartsContent rest) :
    ∃ p : Cursor, p.rest = rest ∧ p.column = k ∧
      Leads s ((s.opened n .blockSequence).onto p true (itemTokens items)) := by
  match items with
  | [] => exact absurd rfl hsome
  | item :: items =>
    rw [writeItems, if_pos rfl, List.nil_append, List.cons_append, List.cons_append, List.append_assoc] at h
    obtain ⟨q, hspot, hsign⟩ := h.leads_entry hallowed (startsContent_writeValue n (n + 2) item _)
    have hindent := opened_indent h.indent .blockSequence
    match items with
    | [] =>
      rw [writeItems, List.nil_append] at hspot
      obtain ⟨p, hrest, hcolumn, hleads⟩ := valueReads item false hspot hindent (by simp) (fun _ => rfl) hk hcontent
      rw [onto_onto] at hleads
      refine ⟨p, hrest, hcolumn, hsign.trans ?_⟩
      rw [itemTokens, itemTokens, List.append_nil]
      exact hleads
    | next :: more =>
      have hmore := List.cons_ne_nil next more
      rw [writeItems_false hmore, List.append_assoc] at hspot
      have hstart := startsContent_writeItems (n := n) hmore (spaces k ++ rest)
      obtain ⟨q, hrest, hcolumn, hvalue⟩ := valueReads item false hspot hindent (by simp) (fun _ => rfl)
        (Nat.le_refl n) hstart
      rw [onto_onto] at hvalue
      have hspot := spot_onto (s := s.opened n .blockSequence) true ([.blockEntry] ++ valueTokens false item) hrest
        hcolumn (by omega) hstart
      obtain ⟨p, hrest, hcolumn, hitems⟩ := Spot.leads_items (next :: more) hspot hmore rfl hk hcontent
      rw [opened_onto hindent, onto_onto] at hitems
      refine ⟨p, hrest, hcolumn, (hsign.trans hvalue).trans ?_⟩
      rw [itemTokens]
      exact hitems

/-- The entries of a mapping are read up to the next content. -/
theorem Spot.leads_members (members : List (String × Json.Value)) {s : Lexer} {n k : Nat} {rest : List Char}
    (h : s.Spot n (writeEntries n true members ++ (spaces k ++ rest))) (hsome : members ≠ [])
    (hallowed : s.keyAllowed = true) (hk : k ≤ n) (hcontent : StartsContent rest) :
    ∃ p : Cursor, p.rest = rest ∧ p.column = k ∧
      Leads s ((s.opened n .blockMapping).onto p true (memberTokens members)) := by
  match members with
  | [] => exact absurd rfl hsome
  | (key, value) :: members =>
    rw [writeEntries, if_pos rfl, List.nil_append, List.append_assoc] at h
    have hindent := opened_indent h.indent .blockMapping
    match members with
    | [] =>
      rw [writeEntries, List.nil_append] at h
      obtain ⟨p, hrest, hcolumn, hleads⟩ := h.leads_member (valueReads value) hallowed hk hcontent
      refine ⟨p, hrest, hcolumn, ?_⟩
      rw [memberTokens, memberTokens, List.append_nil]
      exact hleads
    | next :: more =>
      have hmore := List.cons_ne_nil next more
      rw [writeEntries_false hmore, List.append_assoc] at h
      have hstart := startsContent_writeEntries (n := n) hmore (spaces k ++ rest)
      obtain ⟨q, hrest, hcolumn, hmember⟩ := h.leads_member (valueReads value) hallowed (Nat.le_refl n) hstart
      have hspot := spot_onto (s := s.opened n .blockMapping) true
        (.key :: stringToken key :: .value :: valueTokens (isSimpleKey key) value) hrest hcolumn (by omega) hstart
      obtain ⟨p, hrest, hcolumn, hmembers⟩ := Spot.leads_members (next :: more) hspot hmore rfl hk hcontent
      rw [opened_onto hindent, onto_onto] at hmembers
      refine ⟨p, hrest, hcolumn, hmember.trans ?_⟩
      rw [memberTokens]
      exact hmembers

end

end Lexer

end ChatAssistant.Yaml
