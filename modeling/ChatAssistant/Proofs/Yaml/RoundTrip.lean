import ChatAssistant.Proofs.Table
import ChatAssistant.Proofs.Yaml.Nodes
import ChatAssistant.Proofs.Yaml.Stream

/-!
# Reading a table back

The text of a table is read as the table again, where its numbers are read back from their texts, its keys
ascend, and it is nested no deeper than a document may be.
-/

namespace ChatAssistant.Yaml

open ChatAssistant.Number

namespace Node

theorem parse?_printTable (t : Table Json.Value) : parse? (printTable t) = some [ofValue (.object t)] := by
  have hevents : ofEvents? (.document :: Event.ofValue (.object t)) = some [ofValue (.object t)] := by
    rw [ofEvents?, List.foldlM_cons]
    change Option.map _ ((Event.ofValue (.object t)).foldlM Builder.step ⟨[], [], [], 0⟩) = _
    rw [builds_value]
    rfl
  rw [parse?, printTable, String.toList_ofList, tokens?_written, Option.bind_eq_bind, Option.bind_some,
    Event.ofTokens?_table, Option.bind_eq_bind, Option.bind_some, hevents]

end Node

/-! ## Scalars -/

/-- A number that is read back from its text. -/
def IsLegible (n : Json.Number) : Prop := plainValue? (String.ofList (writeNumber n)) = some (.number n)

theorem plainValue?_words :
    plainValue? "null" = some .null ∧ plainValue? "true" = some (.bool true) ∧
      plainValue? "false" = some (.bool false) := by
  refine ⟨?_, ?_, ?_⟩ <;> rfl

-- The words that are read as something else are reserved in any case.
theorem reserved_of_word {s : String} (h : isNullWord s = true ∨ boolWord? s ≠ none) :
    reservedWords.contains (Text.toLower s) = true := by
  have hwords : ∀ word ∈ ["null", "Null", "NULL", "~", "true", "True", "TRUE", "false", "False", "FALSE"],
      reservedWords.contains (Text.toLower word) = true := by decide
  refine hwords s ?_
  rcases h with h | h
  · rw [isNullWord, List.contains_eq_mem, decide_eq_true_eq] at h
    simp only [List.mem_cons, List.not_mem_nil, or_false] at h ⊢
    rcases h with rfl | rfl | rfl | rfl <;> simp
  · rw [boolWord?] at h
    split at h
    · next hword =>
      simp only [List.contains_eq_mem, List.mem_cons, List.not_mem_nil, or_false, decide_eq_true_eq] at hword ⊢
      rcases hword with rfl | rfl | rfl <;> simp
    · split at h
      · next hword =>
        simp only [List.contains_eq_mem, List.mem_cons, List.not_mem_nil, or_false, decide_eq_true_eq] at hword ⊢
        rcases hword with rfl | rfl | rfl <;> simp
      · exact absurd rfl h

-- A letter is no digit of a decimal.
theorem hexDigit?_of_not_isDigit {c : Char} (h : c.isDigit = false) {d : Nat} (hd : hexDigit? c = some d) :
    10 ≤ d := by
  rw [hexDigit?, h, if_neg (by decide)] at hd
  split at hd
  · next hletter =>
    have hlow : 'a'.toNat ≤ c.toNat := hletter.1
    rw [Option.some.injEq] at hd
    change 97 ≤ _ at hlow
    omega
  · split at hd
    · next hletter =>
      have hlow : 'A'.toNat ≤ c.toNat := hletter.1
      rw [Option.some.injEq] at hd
      change 65 ≤ _ at hlow
      omega
    · cases hd

theorem integerValue?_of_name {c : Char} {cs : List Char} (hdigit : c.isDigit = false) (hminus : c ≠ '-')
    (hplus : c ≠ '+') : integerValue? (c :: cs) = none := by
  have hzero : c ≠ '0' := by
    rintro rfl
    cases hdigit
  have hradix : natOfRadix? 10 (c :: cs) = none := by
    rw [natOfRadix?, List.isEmpty_cons, if_neg (by decide), List.foldlM_cons]
    cases hd : hexDigit? c with
    | none => rfl
    | some d =>
      have := hexDigit?_of_not_isDigit hdigit hd
      simp [show ¬d < 10 by omega]
  have hpadded : isZeroPadded (c :: cs) = false := by
    simp [isZeroPadded, hminus, hplus, hzero]
  have hmagnitude : magnitude? (c :: cs) = none := by
    simp [magnitude?, hzero, hpadded, hradix]
  simp [integerValue?, integer?, hminus, hplus, hmagnitude]

theorem double?_of_name {c : Char} {cs : List Char} (hdigit : c.isDigit = false) (hminus : c ≠ '-')
    (hplus : c ≠ '+') (hpoint : c ≠ '.') : double? (c :: cs) = none := by
  have hdecimal : decimalText? false (c :: cs) = none := by
    simp [decimalText?, hdigit, takeFraction, hpoint]
  have hsign : takeSign (c :: cs) = (false, c :: cs) := by
    simp [takeSign, hminus, hplus]
  have hwords : ∀ words : List String,
      (∀ word ∈ words, word.toList.head? = some '.' ∨ word.toList.head? = some '-') →
      words.contains (String.ofList (c :: cs)) = false := by
    intro words hhead
    rw [List.contains_eq_mem, decide_eq_false_iff_not]
    intro hmem
    have := hhead _ hmem
    rw [String.toList_ofList, List.head?_cons, Option.some.injEq, Option.some.injEq] at this
    exact this.elim hpoint hminus
  have hkind : ∀ x, Extended.ofText? double (String.ofList (c :: cs)) ≠ some (.finite x) := by
    intro x
    rw [Extended.ofText?, String.toList_ofList, hsign]
    dsimp only
    rw [hdecimal]
    split
    · simp
    · split <;> simp
  simp only [double?]
  split
  · rfl
  · next body hbody =>
    have hsame : body = c :: cs := by
      split at hbody
      · cases hbody
      · cases hbody
      · next hhead => exact absurd (List.cons.inj hhead).1 hplus
      · exact (Option.some.inj hbody).symm
    rw [hsame, hwords _ (by decide), if_neg (by decide), hwords _ (by decide), if_neg (by decide),
      hwords _ (by decide), if_neg (by decide)]
    split
    · next x hx => exact absurd hx (hkind x)
    · rfl

/-- A plain string is read as a string. -/
theorem plainValue?_of_plain {s : String} (h : styleOf s = .plain) : plainValue? s = some (.string s) := by
  obtain ⟨hplain, hclear⟩ := plainString_of_styleOf h
  have hword : ¬(isNullWord s = true ∨ boolWord? s ≠ none) := by
    intro hword
    have hreserved := reserved_of_word hword
    rw [isAmbiguous] at hclear
    split at hclear
    · cases hclear
    · rw [hreserved, Bool.or_true] at hclear
      cases hclear
  rw [not_or, not_not, Bool.not_eq_true] at hword
  have hname := hplain.name
  cases hs : s.toList with
  | nil => exact absurd hs hplain.ne_nil
  | cons c cs =>
    rw [hs, List.head?_cons, Option.any_some] at hname
    simp only [Bool.or_eq_false_iff, beq_eq_false_iff_ne] at hname
    obtain ⟨⟨⟨hdigit, hminus⟩, hpoint⟩, hplus⟩ := hname
    have hsome : s.isEmpty = false := by
      rw [String.isEmpty_eq_false_iff]
      rintro rfl
      cases hs
    have hzero : c ≠ '0' := by
      rintro rfl
      cases hdigit
    have hpadded : isZeroPadded (c :: cs) = false := by
      simp [isZeroPadded, hminus, hplus, hzero]
    rw [plainValue?, hsome, hword.1, hword.2, hs, integerValue?_of_name hdigit hminus hplus, hpadded,
      double?_of_name hdigit hminus hplus hpoint]
    rfl

theorem scalarValue?_ofString (s : String) : scalarValue? none (styleOf s == .plain) s = some (.string s) := by
  by_cases h : styleOf s = .plain
  · rw [scalarValue?, if_pos (beq_iff_eq.mpr h), plainValue?_of_plain h]
  · rw [scalarValue?, beq_eq_false_iff_ne.mpr h, if_neg (by decide)]

/-! ## Values -/

/-- A value that is read back from its text: its numbers are legible, its keys ascend, and it has at most
`depth` levels of collections. -/
inductive Storable : Nat → Json.Value → Prop
  | null (depth : Nat) : Storable depth .null
  | bool (depth : Nat) (b : Bool) : Storable depth (.bool b)
  | number (depth : Nat) {n : Json.Number} (h : IsLegible n) : Storable depth (.number n)
  | string (depth : Nat) (s : String) : Storable depth (.string s)
  | array {depth : Nat} {items : List Json.Value} (h : ∀ item ∈ items, Storable depth item) :
      Storable (depth + 1) (.array items)
  | object {depth : Nat} {members : Table Json.Value} (hascending : members.Ascending)
      (h : ∀ entry ∈ members, Storable depth entry.2) : Storable (depth + 1) (.object members)

namespace Node

section

variable {slots : Nat → Option Node} {depth : Nat}

/-- Items that are read one after another, the last one first. -/
def items? (slots : Nat → Option Node) (depth jumps : Nat) (items : List Node) :
    Option (List Json.Value × Nat) :=
  items.foldlM (fun (acc : List Json.Value × Nat) item => do
    let (v, jumps) ← value? slots depth acc.2 item
    some (v :: acc.1, jumps)) ([], jumps)

/-- Members that are read one after another, the last one first. -/
def members? (slots : Nat → Option Node) (depth jumps : Nat) (entries : List (Node × Node)) :
    Option (List (String × Json.Value) × Nat) :=
  entries.foldlM (fun (acc : List (String × Json.Value) × Nat) (entry : Node × Node) => do
    let (key, jumps) ← keyText? slots acc.2 entry.1
    let (v, jumps) ← value? slots depth jumps entry.2
    some ((key, v) :: acc.1, jumps)) ([], jumps)

-- The reader has no equations of its own, as it matches on the node and on the depth at once.
theorem value?_scalar (jumps : Nat) (slot : Option Nat) (tag : Option String) (isPlain : Bool) (text : String) :
    value? slots depth jumps (.scalar slot tag isPlain text) =
      (scalarValue? tag isPlain text).map fun v => (v, jumps) := by
  delta value?
  cases depth <;> rfl

theorem value?_sequence (jumps : Nat) (slot : Option Nat) (tag : Option String) (items : List Node) :
    value? slots (depth + 1) jumps (.sequence slot tag items) =
      if hasLocalTag tag then none
      else (items? slots depth jumps items).bind fun read => some (.array read.1.reverse, read.2) := by
  delta items? value?
  rfl

theorem value?_mapping (jumps : Nat) (slot : Option Nat) (tag : Option String) (entries : List (Node × Node)) :
    value? slots (depth + 1) jumps (.mapping slot tag entries) =
      if hasLocalTag tag then none
      else (members? slots depth jumps entries).bind fun read =>
        some (.object (Table.ofList read.1.reverse), read.2) := by
  delta members? value?
  rfl

-- An alias is read as what it stands for, which is no alias.
theorem exists_target? {node : Node} {jumps : Nat} {read : Json.Value × Nat}
    (h : value? slots depth jumps node = some read) :
    ∃ found left, (∀ slot, found ≠ .aliasOf slot) ∧ value? slots depth left found = some read := by
  delta value? at h ⊢
  cases depth <;> obtain ⟨⟨found, left⟩, -, hfound⟩ := Option.bind_eq_some_iff.mp h <;> cases found with
  | aliasOf => cases hfound
  | scalar slot tag isPlain text => exact ⟨.scalar slot tag isPlain text, left, nofun, hfound⟩
  | sequence slot tag items => exact ⟨.sequence slot tag items, left, nofun, hfound⟩
  | mapping slot tag entries => exact ⟨.mapping slot tag entries, left, nofun, hfound⟩

-- Without a level left a collection is not read.
theorem value?_sequence_zero (jumps : Nat) (slot : Option Nat) (tag : Option String) (items : List Node) :
    value? slots 0 jumps (.sequence slot tag items) = none := by
  delta value?
  rfl

theorem value?_mapping_zero (jumps : Nat) (slot : Option Nat) (tag : Option String)
    (entries : List (Node × Node)) : value? slots 0 jumps (.mapping slot tag entries) = none := by
  delta value?
  rfl

theorem items?_ofItems {items : List Json.Value}
    (h : ∀ item ∈ items, ∀ jumps, value? slots depth jumps (ofValue item) = some (item, jumps)) (jumps : Nat) :
    items? slots depth jumps (ofItems items) = some (items.reverse, jumps) := by
  have hfold : ∀ front, (ofItems items).foldlM (fun (acc : List Json.Value × Nat) item => do
      let (v, jumps) ← value? slots depth acc.2 item
      some (v :: acc.1, jumps)) (front, jumps) = some (items.reverse ++ front, jumps) := by
    induction items with
    | nil => exact fun front => rfl
    | cons item items ih =>
      intro front
      rw [List.forall_mem_cons] at h
      simp only [ofItems, List.foldlM_cons, h.1, Option.bind_eq_bind, Option.bind_some]
      rw [List.reverse_cons, List.append_assoc, List.singleton_append]
      exact ih h.2 _
  rw [items?, hfold, List.append_nil]

theorem members?_ofMembers {members : List (String × Json.Value)}
    (h : ∀ entry ∈ members, ∀ jumps, value? slots depth jumps (ofValue entry.2) = some (entry.2, jumps))
    (jumps : Nat) : members? slots depth jumps (ofMembers members) = some (members.reverse, jumps) := by
  have hfold : ∀ front, (ofMembers members).foldlM
      (fun (acc : List (String × Json.Value) × Nat) (entry : Node × Node) => do
        let (key, jumps) ← keyText? slots acc.2 entry.1
        let (v, jumps) ← value? slots depth jumps entry.2
        some ((key, v) :: acc.1, jumps)) (front, jumps) = some (members.reverse ++ front, jumps) := by
    induction members with
    | nil => exact fun front => rfl
    | cons entry members ih =>
      intro front
      obtain ⟨key, value⟩ := entry
      rw [List.forall_mem_cons] at h
      have hkey : keyText? slots jumps (ofString key) = some (key, jumps) := rfl
      simp only [ofMembers, List.foldlM_cons, hkey, h.1, Option.bind_eq_bind, Option.bind_some]
      rw [List.reverse_cons, List.append_assoc, List.singleton_append]
      exact ih h.2 _
  rw [members?, hfold, List.append_nil]

theorem value?_ofValue {v : Json.Value} (h : Storable depth v) (jumps : Nat) :
    value? slots depth jumps (ofValue v) = some (v, jumps) := by
  induction h generalizing jumps with
  | null depth => rw [ofValue, value?_scalar, scalarValue?, if_pos rfl, plainValue?_words.1, Option.map_some]
  | bool depth b =>
    cases b with
    | true => rw [ofValue, value?_scalar, scalarValue?, if_pos rfl, plainValue?_words.2.1, Option.map_some]
    | false => rw [ofValue, value?_scalar, scalarValue?, if_pos rfl, plainValue?_words.2.2, Option.map_some]
  | number depth h => rw [ofValue, value?_scalar, scalarValue?, if_pos rfl, h, Option.map_some]
  | string depth s => rw [ofValue, ofString, value?_scalar, scalarValue?_ofString, Option.map_some]
  | array _ ih =>
    rw [ofValue, value?_sequence, if_neg (by decide), items?_ofItems ih, Option.bind_some, List.reverse_reverse]
  | object hascending _ ih =>
    rw [ofValue, value?_mapping, if_neg (by decide), members?_ofMembers ih, Option.bind_some,
      List.reverse_reverse, hascending.ofList_eq]

end

end Node

/-- A table is read back from its text. -/
theorem parseTable?_printTable {t : Table Json.Value} (h : Storable Node.depthLimit (.object t)) :
    parseTable? (printTable t) = some t := by
  have htable : (Node.ofValue (.object t)).table? = some t := by
    rw [Node.ofValue, Node.table?]
    have hvalue := fun slots => @Node.value?_ofValue slots _ _ h
    simp only [Node.ofValue] at hvalue
    rw [hvalue]
  rw [parseTable?, Node.parse?_printTable]
  exact htable

end ChatAssistant.Yaml
