import ChatAssistant.Proofs.Yaml.Legible

/-!
# Tables that were read

Whatever the text of a table is, the table that is read from it is read back from its own text: its numbers
are in range, its keys ascend, and it is not nested too deep.
-/

namespace ChatAssistant.Yaml

open ChatAssistant.Number

/-! ## Scalars -/

theorem canonical_of_ofText? {s : String} {x : Finite double} (h : Extended.ofText? double s = some (.finite x)) :
    x.Canonical := by
  have hratio : ∀ {negative : Bool} {num den : Nat}, 0 < den →
      Extended.ofRatio double negative num den = .finite x → x.Canonical := by
    intro negative num den hden hratio
    unfold Extended.ofRatio at hratio
    split at hratio
    · next y hy =>
      cases hratio
      exact Finite.canonical_of_ofRatio? hden hy
    · cases hratio
  unfold Extended.ofText? at h
  dsimp only at h
  split at h
  · cases h
  split at h
  · cases h
  obtain ⟨t, -, ht⟩ := Option.map_eq_some_iff.mp h
  unfold DecimalText.value at ht
  dsimp only at ht
  split at ht
  · cases ht
    exact Finite.canonical_zero t.negative
  split at ht
  · cases ht
    exact Finite.canonical_zero t.negative
  split at ht
  · cases ht
  split at ht
  · exact hratio Nat.one_pos ht
  · exact hratio (Nat.pow_pos (by decide)) ht

theorem canonical_of_double? {cs : List Char} {x : Finite double} (h : double? cs = some (.finite x)) :
    x.Canonical := by
  simp only [double?] at h
  split at h
  · cases h
  split at h
  · cases h
  split at h
  · cases h
  split at h
  · cases h
  split at h
  · next y hy =>
    cases h
    exact canonical_of_ofText? hy
  · cases h

theorem storable_doubleValue {cs : List Char} {x : Extended double} (h : double? cs = some x) (depth : Nat) :
    Storable depth (doubleValue x) := by
  cases x with
  | finite x => exact .number depth (isLegible_float (canonical_of_double? h))
  | infinite negative => exact .null depth
  | nan => exact .null depth

theorem storable_integerValue {cs : List Char} {v : Json.Value} (h : integerValue? cs = some (some v))
    (depth : Nat) : Storable depth v := by
  rw [integerValue?] at h
  split at h
  · cases h
  split at h
  · next hfits =>
    cases h
    exact .number depth (isLegible_int hfits)
  · split at h <;> cases h

theorem storable_plainValue {s : String} {v : Json.Value} (h : plainValue? s = some v) (depth : Nat) :
    Storable depth v := by
  rw [plainValue?] at h
  split at h
  · cases h
    exact .null depth
  split at h
  · cases h
    exact .bool depth _
  · next hinteger => exact storable_integerValue (h ▸ hinteger) depth
  split at h
  · cases h
    exact .string depth s
  split at h
  · next hdouble =>
    cases h
    exact storable_doubleValue hdouble depth
  · cases h
    exact .string depth s

theorem storable_scalarValue {tag : Option String} {isPlain : Bool} {s : String} {v : Json.Value}
    (h : scalarValue? tag isPlain s = some v) (depth : Nat) : Storable depth v := by
  unfold scalarValue? at h
  split at h
  · split at h
    · exact storable_plainValue h depth
    · cases h
      exact .string depth s
  split at h
  · cases h
  split at h
  · obtain ⟨b, -, rfl⟩ := Option.map_eq_some_iff.mp h
    exact .bool depth b
  split at h
  · exact storable_integerValue (Option.join_eq_some_iff.mp h) depth
  split at h
  · obtain ⟨x, hx, rfl⟩ := Option.map_eq_some_iff.mp h
    exact storable_doubleValue hx depth
  split at h
  · split at h <;> cases h
    exact .null depth
  · cases h
    exact .string depth s

/-! ## Nodes -/

theorem foldlM_invariant {α β : Type} {step : α → β → Option α} {P : α → Prop}
    (hstep : ∀ a b c, P a → step a b = some c → P c) {l : List β} {a c : α} (ha : P a)
    (h : l.foldlM step a = some c) : P c := by
  induction l generalizing a with
  | nil =>
    cases h
    exact ha
  | cons b l ih =>
    rw [List.foldlM_cons] at h
    obtain ⟨m, hm, hrest⟩ := Option.bind_eq_some_iff.mp h
    exact ih (hstep a b m ha hm) hrest

namespace Node

variable {slots : Nat → Option Node} {depth jumps left : Nat} {v : Json.Value}

/-- What a node may give: a scalar, or a collection of what the nodes inside it give. -/
theorem value?_cases {node : Node} (h : value? slots depth jumps node = some (v, left)) :
    (∃ tag isPlain text, scalarValue? tag isPlain text = some v) ∨
      (∃ d j items read, depth = d + 1 ∧ items? slots d j items = some read ∧ v = .array read.1.reverse) ∨
      ∃ d j entries read, depth = d + 1 ∧ members? slots d j entries = some read ∧
        v = .object (Table.ofList read.1.reverse) := by
  obtain ⟨found, j, hfound, hread⟩ := exists_target? h
  cases found with
  | scalar slot tag isPlain text =>
    rw [value?_scalar] at hread
    obtain ⟨w, hw, hv⟩ := Option.map_eq_some_iff.mp hread
    cases hv
    exact .inl ⟨tag, isPlain, text, hw⟩
  | sequence slot tag items =>
    cases depth with
    | zero =>
      rw [value?_sequence_zero] at hread
      cases hread
    | succ depth =>
      rw [value?_sequence] at hread
      split at hread
      · cases hread
      · obtain ⟨read, hitems, hv⟩ := Option.bind_eq_some_iff.mp hread
        cases hv
        exact .inr (.inl ⟨depth, j, items, read, rfl, hitems, rfl⟩)
  | mapping slot tag entries =>
    cases depth with
    | zero =>
      rw [value?_mapping_zero] at hread
      cases hread
    | succ depth =>
      rw [value?_mapping] at hread
      split at hread
      · cases hread
      · obtain ⟨read, hmembers, hv⟩ := Option.bind_eq_some_iff.mp hread
        cases hv
        exact .inr (.inr ⟨depth, j, entries, read, rfl, hmembers, rfl⟩)
  | aliasOf slot => exact absurd rfl (hfound slot)

theorem storable_value? {node : Node} (h : value? slots depth jumps node = some (v, left)) : Storable depth v := by
  induction depth generalizing jumps left node v with
  | zero =>
    rcases value?_cases h with ⟨tag, isPlain, text, hscalar⟩ | ⟨d, j, items, read, hd, -⟩ |
      ⟨d, j, entries, read, hd, -⟩
    · exact storable_scalarValue hscalar 0
    · cases hd
    · cases hd
  | succ depth ih =>
    rcases value?_cases h with ⟨tag, isPlain, text, hscalar⟩ | ⟨d, j, items, read, hd, hitems, rfl⟩ |
      ⟨d, j, entries, read, hd, hmembers, rfl⟩
    · exact storable_scalarValue hscalar _
    · cases hd
      refine .array fun item hitem => ?_
      have hall : ∀ item ∈ read.1, Storable depth item := by
        refine foldlM_invariant (P := fun acc => ∀ item ∈ acc.1, Storable depth item) ?_ (List.forall_mem_nil _) hitems
        intro acc item acc' hacc hstep
        obtain ⟨⟨w, l⟩, hw, hstep⟩ := Option.bind_eq_some_iff.mp hstep
        cases hstep
        exact List.forall_mem_cons.mpr ⟨ih hw, hacc⟩
      exact hall item (List.mem_reverse.mp hitem)
    · cases hd
      have hall : ∀ entry ∈ read.1, Storable depth entry.2 := by
        refine foldlM_invariant
          (P := fun (acc : List (String × Json.Value) × Nat) => ∀ entry ∈ acc.1, Storable depth entry.2) ?_
          (List.forall_mem_nil _) hmembers
        intro acc entry acc' hacc hstep
        obtain ⟨⟨key, l⟩, -, hstep⟩ := Option.bind_eq_some_iff.mp hstep
        obtain ⟨⟨w, l'⟩, hw, hstep⟩ := Option.bind_eq_some_iff.mp hstep
        cases hstep
        exact List.forall_mem_cons.mpr ⟨ih hw, hacc⟩
      refine .object (Table.ascending_ofList _) fun entry hentry => ?_
      exact hall entry (List.mem_reverse.mp (Table.mem_of_mem_ofList hentry))

end Node

theorem storable_table? {node : Node} {t : Table Json.Value} (h : node.table? = some t) :
    Storable Node.depthLimit (.object t) := by
  have hempty : Storable Node.depthLimit (.object []) := .object .nil (List.forall_mem_nil _)
  cases node with
  | scalar slot tag isPlain text =>
    rw [Node.table?] at h
    split at h
    · cases h
    split at h
    · split at h <;> cases h
      exact hempty
    · split at h <;> cases h
      exact hempty
  | mapping slot tag entries =>
    rw [Node.table?] at h
    split at h
    · next members left hvalue =>
      cases h
      exact Node.storable_value? hvalue
    · cases h
  | sequence | aliasOf => cases h

/-- A table that was read is read back from its own text. -/
theorem storable_parseTable? {s : String} {t : Table Json.Value} (h : parseTable? s = some t) :
    Storable Node.depthLimit (.object t) := by
  unfold parseTable? at h
  obtain ⟨documents, -, h⟩ := Option.bind_eq_some_iff.mp h
  split at h
  · cases h
    exact .object .nil (List.forall_mem_nil _)
  · exact storable_table? h
  · cases h

end ChatAssistant.Yaml
