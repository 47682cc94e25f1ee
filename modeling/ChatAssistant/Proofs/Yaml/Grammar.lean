import ChatAssistant.Proofs.Yaml.Tokens
import ChatAssistant.Yaml.Event

/-!
# The events of values

The parser takes the tokens of a value and gives the events of a node, whatever it expects after it.
-/

namespace ChatAssistant.Yaml.Event

/-- A node without an anchor and a tag. -/
def bare : Properties := ⟨none, none⟩

/-- The event of a string. -/
def ofString (s : String) : Event := .scalar bare (styleOf s == .plain) s

mutual

/-- The events of a value. -/
def ofValue : Json.Value → List Event
  | .null => [.scalar bare true "null"]
  | .bool true => [.scalar bare true "true"]
  | .bool false => [.scalar bare true "false"]
  | .number n => [.scalar bare true (String.ofList (writeNumber n))]
  | .string s => [ofString s]
  | .array items => .openSequence bare :: (ofItems items ++ [.closeSequence])
  | .object members => .openMapping bare :: (ofMembers members ++ [.closeMapping])

/-- The events of items, one after another. -/
def ofItems : List Json.Value → List Event
  | [] => []
  | item :: rest => ofValue item ++ ofItems rest

/-- The events of keys and values by turns. -/
def ofMembers : List (String × Json.Value) → List Event
  | [] => []
  | (key, value) :: rest => ofString key :: (ofValue value ++ ofMembers rest)

end

namespace Parser

/-- The parser goes from one state to another in at most so many steps. -/
def Goes (limit : Nat) (p q : Parser) : Prop :=
  ∃ count ≤ limit, ∀ fuel, run (fuel + count) p = run fuel q

variable {p q r : Parser} {m n : Nat}

theorem Goes.refl (p : Parser) : Goes 0 p p := ⟨0, Nat.le_refl 0, fun _ => rfl⟩

theorem Goes.trans (h : Goes m p q) (h' : Goes n q r) : Goes (m + n) p r := by
  obtain ⟨a, ha, hrun⟩ := h
  obtain ⟨b, hb, hrun'⟩ := h'
  refine ⟨b + a, by omega, fun fuel => ?_⟩
  rw [← Nat.add_assoc, hrun, hrun']

theorem Goes.mono (h : Goes m p q) (hle : m ≤ n) : Goes n p q := by
  obtain ⟨count, hcount, hrun⟩ := h
  exact ⟨count, Nat.le_trans hcount hle, hrun⟩

theorem Goes.cast (h : Goes n p q) (hq : q = r) : Goes n p r := hq ▸ h

theorem goes_step (hexpect : p.expect ≠ []) (h : p.step = some q) : Goes 1 p q := by
  refine ⟨1, Nat.le_refl 1, fun fuel => ?_⟩
  have hmore : p.expect.isEmpty = false := by simpa using hexpect
  rw [run, hmore, if_neg (by decide), h, Option.bind_some]

/-! ## The first token of a value -/

/-- A token that starts a node. -/
def startsNode : Token → Bool
  | .scalar _ _ | .openSequence | .openMapping | .blockSequence | .blockMapping => true
  | _ => false

-- A value starts with a token of its own kind, or with the sign of its first item.
theorem exists_valueTokens (b : Bool) (v : Json.Value) :
    ∃ token more, valueTokens b v = token :: more ∧
      (startsNode token = true ∨ (b = true ∧ token = .blockEntry)) := by
  cases v with
  | null => exact ⟨_, _, rfl, .inl rfl⟩
  | bool truth => cases truth <;> exact ⟨_, _, rfl, .inl rfl⟩
  | number n => exact ⟨_, _, rfl, .inl rfl⟩
  | string s => exact ⟨_, _, rfl, .inl rfl⟩
  | array items =>
    cases items with
    | nil => exact ⟨_, _, rfl, .inl rfl⟩
    | cons item items =>
      cases b with
      | true => exact ⟨_, _, rfl, .inr ⟨rfl, rfl⟩⟩
      | false => exact ⟨_, _, rfl, .inl rfl⟩
  | object members =>
    cases members with
    | nil => exact ⟨_, _, rfl, .inl rfl⟩
    | cons member members => exact ⟨_, _, rfl, .inl rfl⟩

section

variable {later : List Expect} {rest : List Token} {handles : List (String × String)} {out : List Event}

-- Behind the sign of an item, of a key or of a value the parser expects a node.
theorem nodeUnless_valueTokens {stops : List Token} (b : Bool) (v : Json.Value) (node : Expect)
    (hstops : ∀ token ∈ stops, startsNode token = false) (hentry : b = true → .blockEntry ∉ stops) :
    p.nodeUnless stops node later (valueTokens b v ++ rest) = p.goOn (node :: later) (valueTokens b v ++ rest) := by
  obtain ⟨token, more, htokens, hstart⟩ := exists_valueTokens b v
  have hnone : stopsAt stops (valueTokens b v ++ rest) = false := by
    rw [htokens, List.cons_append, stopsAt, List.contains_eq_mem, decide_eq_false_iff_not]
    intro hmem
    rcases hstart with hstart | ⟨hb, rfl⟩
    · rw [hstops token hmem] at hstart
      cases hstart
    · exact hentry hb hmem
  rw [nodeUnless, hnone, if_neg (by decide)]

mutual

/-- The parser takes a value as a node. -/
theorem goes_value (v : Json.Value) {b allowed : Bool} {later : List Expect} {rest : List Token}
    {out : List Event} (hallowed : b = true → allowed = true) (hrest : b = true → rest.head? ≠ some .blockEntry) :
    Goes (4 * (valueTokens b v).length + 2)
      ⟨.node true allowed :: later, valueTokens b v ++ rest, handles, out⟩
      ⟨later, rest, handles, (ofValue v).reverse ++ out⟩ := by
  match v with
  | .null => exact (goes_step (List.cons_ne_nil _ _) rfl).mono (by simp [valueTokens])
  | .bool true => exact (goes_step (List.cons_ne_nil _ _) rfl).mono (by simp [valueTokens])
  | .bool false => exact (goes_step (List.cons_ne_nil _ _) rfl).mono (by simp [valueTokens])
  | .number n => exact (goes_step (List.cons_ne_nil _ _) rfl).mono (by simp [valueTokens])
  | .string s => exact (goes_step (List.cons_ne_nil _ _) rfl).mono (by simp [valueTokens])
  | .array [] =>
    exact ((goes_step (List.cons_ne_nil _ _) rfl).trans (goes_step (List.cons_ne_nil _ _) rfl)).mono
      (by simp [valueTokens])
  | .object [] =>
    exact ((goes_step (List.cons_ne_nil _ _) rfl).trans (goes_step (List.cons_ne_nil _ _) rfl)).mono
      (by simp [valueTokens])
  | .array (item :: items) =>
    cases b with
    | true =>
      obtain rfl := hallowed rfl
      have hopen : Goes 1 ⟨.node true true :: later, itemTokens (item :: items) ++ rest, handles, out⟩
          ⟨.indentlessEntry :: later, itemTokens (item :: items) ++ rest, handles, .openSequence bare :: out⟩ :=
        goes_step (List.cons_ne_nil _ _) rfl
      refine ((hopen.trans (goes_indentless (item :: items) (hrest rfl))).mono ?_).cast ?_
      · simp only [valueTokens, List.isEmpty_cons, Bool.false_eq_true, if_false, if_true]
        omega
      · simp [ofValue]
    | false =>
      have hopen : Goes 1
          ⟨.node true allowed :: later, valueTokens false (.array (item :: items)) ++ rest, handles, out⟩
          ⟨.blockEntry true :: later, itemTokens (item :: items) ++ .blockEnd :: rest, handles,
            .openSequence bare :: out⟩ := by
        refine goes_step (List.cons_ne_nil _ _) ?_
        simp [valueTokens, step, node, takeProperties, takeAnchor, takeTag, resolveTag, goOn, emit, bare]
      refine ((hopen.trans (goes_items (item :: items))).mono ?_).cast ?_
      · simp only [valueTokens, List.isEmpty_cons, Bool.false_eq_true, if_false, List.length_cons,
          List.length_append]
        omega
      · simp [ofValue]
  | .object (member :: members) =>
    have hopen : Goes 1
        ⟨.node true allowed :: later, valueTokens b (.object (member :: members)) ++ rest, handles, out⟩
        ⟨.blockKey true :: later, memberTokens (member :: members) ++ .blockEnd :: rest, handles,
          .openMapping bare :: out⟩ := by
      refine goes_step (List.cons_ne_nil _ _) ?_
      simp [valueTokens, step, node, takeProperties, takeAnchor, takeTag, resolveTag, goOn, emit, bare]
    refine ((hopen.trans (goes_members (member :: members))).mono ?_).cast ?_
    · simp only [valueTokens, List.isEmpty_cons, Bool.false_eq_true, if_false, List.length_cons,
        List.length_append]
      omega
    · simp [ofValue]

/-- The parser takes the items of a list up to its end. -/
theorem goes_items (items : List Json.Value) {first : Bool} {later : List Expect} {rest : List Token}
    {out : List Event} :
    Goes (4 * (itemTokens items).length + 1)
      ⟨.blockEntry first :: later, itemTokens items ++ .blockEnd :: rest, handles, out⟩
      ⟨later, rest, handles, .closeSequence :: ((ofItems items).reverse ++ out)⟩ := by
  match items with
  | [] => exact goes_step (List.cons_ne_nil _ _) rfl
  | item :: items =>
    have hsign : Goes 1
        ⟨.blockEntry first :: later, itemTokens (item :: items) ++ .blockEnd :: rest, handles, out⟩
        ⟨.node true false :: .blockEntry false :: later,
          valueTokens false item ++ (itemTokens items ++ .blockEnd :: rest), handles, out⟩ := by
      refine goes_step (List.cons_ne_nil _ _) ?_
      rw [itemTokens, List.cons_append, List.append_assoc, step]
      dsimp only
      rw [nodeUnless_valueTokens false item _ (by decide) (fun h => by cases h)]
      rfl
    have hitem : Goes _
        ⟨.node true false :: .blockEntry false :: later,
          valueTokens false item ++ (itemTokens items ++ .blockEnd :: rest), handles, out⟩
        ⟨.blockEntry false :: later, itemTokens items ++ .blockEnd :: rest, handles,
          (ofValue item).reverse ++ out⟩ :=
      goes_value item (fun h => by cases h) (fun h => by cases h)
    refine (((hsign.trans hitem).trans (goes_items items)).mono ?_).cast ?_
    · simp only [itemTokens, List.length_cons, List.length_append]
      omega
    · simp [ofItems]

/-- The parser takes the items of a list that is indented no further than its key. -/
theorem goes_indentless (items : List Json.Value) {later : List Expect} {rest : List Token}
    {out : List Event} (hrest : rest.head? ≠ some .blockEntry) :
    Goes (4 * (itemTokens items).length + 1)
      ⟨.indentlessEntry :: later, itemTokens items ++ rest, handles, out⟩
      ⟨later, rest, handles, .closeSequence :: ((ofItems items).reverse ++ out)⟩ := by
  match items with
  | [] =>
    refine goes_step (List.cons_ne_nil _ _) ?_
    cases rest with
    | nil => rfl
    | cons token rest =>
      cases token with
      | blockEntry => exact absurd rfl hrest
      | _ => rfl
  | item :: items =>
    have hsign : Goes 1
        ⟨.indentlessEntry :: later, itemTokens (item :: items) ++ rest, handles, out⟩
        ⟨.node true false :: .indentlessEntry :: later, valueTokens false item ++ (itemTokens items ++ rest),
          handles, out⟩ := by
      refine goes_step (List.cons_ne_nil _ _) ?_
      rw [itemTokens, List.cons_append, List.append_assoc, step]
      dsimp only
      rw [nodeUnless_valueTokens false item _ (by decide) (fun h => by cases h)]
      rfl
    have hitem : Goes _
        ⟨.node true false :: .indentlessEntry :: later, valueTokens false item ++ (itemTokens items ++ rest),
          handles, out⟩
        ⟨.indentlessEntry :: later, itemTokens items ++ rest, handles, (ofValue item).reverse ++ out⟩ :=
      goes_value item (fun h => by cases h) (fun h => by cases h)
    refine (((hsign.trans hitem).trans (goes_indentless items hrest)).mono ?_).cast ?_
    · simp only [itemTokens, List.length_cons, List.length_append]
      omega
    · simp [ofItems]

/-- The parser takes the entries of a mapping up to its end. -/
theorem goes_members (members : List (String × Json.Value)) {first : Bool} {later : List Expect}
    {rest : List Token} {out : List Event} :
    Goes (4 * (memberTokens members).length + 1)
      ⟨.blockKey first :: later, memberTokens members ++ .blockEnd :: rest, handles, out⟩
      ⟨later, rest, handles, .closeMapping :: ((ofMembers members).reverse ++ out)⟩ := by
  match members with
  | [] => exact goes_step (List.cons_ne_nil _ _) rfl
  | (key, value) :: members =>
    have hmore : (memberTokens members ++ .blockEnd :: rest).head? ≠ some .blockEntry := by
      cases members with
      | nil => simp [memberTokens]
      | cons member members => simp [memberTokens]
    have hsign : Goes 1
        ⟨.blockKey first :: later, memberTokens ((key, value) :: members) ++ .blockEnd :: rest, handles, out⟩
        ⟨.node true true :: .blockValue :: later, stringToken key :: .value ::
          (valueTokens (isSimpleKey key) value ++ (memberTokens members ++ .blockEnd :: rest)), handles, out⟩ := by
      refine goes_step (List.cons_ne_nil _ _) ?_
      rw [memberTokens, List.cons_append, List.cons_append, List.cons_append, List.append_assoc]
      rfl
    have hkey : Goes 1
        ⟨.node true true :: .blockValue :: later, stringToken key :: .value ::
          (valueTokens (isSimpleKey key) value ++ (memberTokens members ++ .blockEnd :: rest)), handles, out⟩
        ⟨.blockValue :: later, .value ::
          (valueTokens (isSimpleKey key) value ++ (memberTokens members ++ .blockEnd :: rest)), handles,
          ofString key :: out⟩ := goes_step (List.cons_ne_nil _ _) rfl
    have hanswer : Goes 1
        ⟨.blockValue :: later, .value ::
          (valueTokens (isSimpleKey key) value ++ (memberTokens members ++ .blockEnd :: rest)), handles,
          ofString key :: out⟩
        ⟨.node true true :: .blockKey false :: later,
          valueTokens (isSimpleKey key) value ++ (memberTokens members ++ .blockEnd :: rest), handles,
          ofString key :: out⟩ := by
      refine goes_step (List.cons_ne_nil _ _) ?_
      rw [step]
      dsimp only
      rw [nodeUnless_valueTokens (isSimpleKey key) value _ (by decide) (fun _ => by decide)]
      rfl
    have hvalue : Goes _
        ⟨.node true true :: .blockKey false :: later,
          valueTokens (isSimpleKey key) value ++ (memberTokens members ++ .blockEnd :: rest), handles,
          ofString key :: out⟩
        ⟨.blockKey false :: later, memberTokens members ++ .blockEnd :: rest, handles,
          (ofValue value).reverse ++ ofString key :: out⟩ :=
      goes_value value (fun _ => rfl) (fun _ => hmore)
    refine (((((hsign.trans hkey).trans hanswer).trans hvalue).trans (goes_members members)).mono ?_).cast ?_
    · simp only [memberTokens, List.length_cons, List.length_append]
      omega
    · simp [ofMembers]

end

end

-- Where nothing is expected any more, the parser stops.
theorem Goes.run_eq {later : List Token} {handles : List (String × String)} {out : List Event} {fuel : Nat}
    (h : Goes n p ⟨[], later, handles, out⟩) (hfuel : n < fuel) : run fuel p = some ⟨[], later, handles, out⟩ := by
  obtain ⟨count, hcount, hrun⟩ := h
  obtain ⟨left, rfl⟩ : ∃ left, fuel = left + 1 + count := ⟨fuel - count - 1, by omega⟩
  rw [hrun]
  rfl

end Parser

-- The tokens of a table make one document.
theorem ofTokens?_table (t : Table Json.Value) :
    ofTokens? (valueTokens false (.object t)) = some (.document :: ofValue (.object t)) := by
  have hstart : Parser.Goes 1 ⟨[.firstDocument], valueTokens false (.object t), defaultHandles, []⟩
      ⟨[.node true false, .documentEnd], valueTokens false (.object t) ++ [], defaultHandles, [.document]⟩ := by
    rw [List.append_nil]
    refine Parser.goes_step (List.cons_ne_nil _ _) ?_
    cases t with
    | nil => rfl
    | cons member members => rfl
  have htable : Parser.Goes _
      ⟨[.node true false, .documentEnd], valueTokens false (.object t) ++ [], defaultHandles, [.document]⟩
      ⟨[.documentEnd], [], defaultHandles, (ofValue (.object t)).reverse ++ [.document]⟩ :=
    Parser.goes_value (.object t) (fun h => by cases h) (fun h => by cases h)
  have hend : Parser.Goes (1 + 1) ⟨[.documentEnd], [], defaultHandles, (ofValue (.object t)).reverse ++ [.document]⟩
      ⟨[], [], defaultHandles, (ofValue (.object t)).reverse ++ [.document]⟩ :=
    (Parser.goes_step (q := ⟨[.document], [], defaultHandles, _⟩) (List.cons_ne_nil _ _) rfl).trans
      (Parser.goes_step (List.cons_ne_nil _ _) rfl)
  rw [ofTokens?, ((hstart.trans htable).trans hend).run_eq (by omega), Option.map_some, List.reverse_append,
    List.reverse_reverse]
  rfl

end ChatAssistant.Yaml.Event
