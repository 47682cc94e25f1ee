import ChatAssistant.Json.Decode
import ChatAssistant.Proofs.Json.Fields
import Mathlib.Algebra.Group.Nat.Defs

/-!
# Values of JSON documents

Which documents have a value, which of them are counts, and how the parts of a document lead to the parts
of its value.
-/

namespace ChatAssistant.Json

open ChatAssistant.Number

namespace Raw

/-! ## Counts -/

/-- An integer that is written without a sign, a fraction or an exponent and fits in sixty-four bits. -/
inductive IsCount : Raw → Nat → Prop
  | intro {t : DecimalText} : t.negative = false → t.fraction = [] → t.exponent = [] →
      natOfDigits t.whole < 2 ^ 64 → IsCount (.number t) (natOfDigits t.whole)

theorem toCount?_of_map_float {x : Option (Finite double)} {number : Json.Number}
    (h : x.map Json.Number.float = some number) : number.toCount? = none := by
  obtain ⟨y, -, rfl⟩ := Option.map_eq_some_iff.mp h
  rfl

theorem count?_eq_some_iff {raw : Raw} {n : Nat} : raw.count? = some n ↔ raw.IsCount n := by
  constructor
  · intro h
    match raw, h with
    | .number t, h =>
      obtain ⟨number, hnumber, hcount⟩ := Option.bind_eq_some_iff.mp h
      unfold Number.ofText? at hnumber
      split at hnumber
      · next hplain =>
        obtain ⟨hfraction, hexponent⟩ : t.fraction = [] ∧ t.exponent = [] := by
          simpa using hplain
        dsimp only at hnumber
        split at hnumber
        · next hpositive =>
          cases hnumber
          obtain ⟨hsign, hbound⟩ : t.negative = false ∧ natOfDigits t.whole ≤ maxCount := by
            simpa using hpositive
          have hn : natOfDigits t.whole = n := by simpa [Number.toCount?] using hcount
          subst hn
          exact .intro hsign hfraction hexponent (by unfold maxCount at hbound; omega)
        · split at hnumber
          · next hnegative =>
            cases hnumber
            obtain ⟨⟨-, hne⟩, -⟩ : (t.negative = true ∧ natOfDigits t.whole ≠ 0) ∧ _ := by
              simpa using hnegative
            simp only [Number.toCount?] at hcount
            split at hcount
            · omega
            · cases hcount
          · rw [toCount?_of_map_float hnumber] at hcount
            cases hcount
      · rw [toCount?_of_map_float hnumber] at hcount
        cases hcount
  · rintro ⟨hsign, hfraction, hexponent, hbound⟩
    next t =>
    have hmax : natOfDigits t.whole ≤ maxCount := by unfold maxCount; omega
    simp [count?, Number.ofText?, hsign, hfraction, hexponent, hmax, Number.toCount?]

/-! ## Values -/

/-- A document that has a value, with so many levels of arrays and objects at most. -/
inductive Valued : Nat → Raw → Prop
  | null {depth : Nat} : Valued depth .null
  | bool {depth : Nat} {b : Bool} : Valued depth (.bool b)
  | number {depth : Nat} {t : DecimalText} :
      (Number.ofText? t).isSome = true → Valued depth (.number t)
  | string {depth : Nat} {pieces : List Piece} :
      (text? pieces).isSome = true → Valued depth (.string pieces)
  | array {depth : Nat} {items : List Raw} :
      (∀ item ∈ items, Valued depth item) → Valued (depth + 1) (.array items)
  | object {depth : Nat} {members : List (List Piece × Raw)} :
      (∀ member ∈ members, (text? member.1).isSome = true) →
      (∀ member ∈ members, Valued depth member.2) → Valued (depth + 1) (.object members)

theorem valued_array_iff {depth : Nat} {items : List Raw} :
    Valued (depth + 1) (.array items) ↔ ∀ item ∈ items, Valued depth item :=
  ⟨fun h => by cases h with | array hitems => exact hitems, .array⟩

theorem valued_object_iff {depth : Nat} {members : List (List Piece × Raw)} :
    Valued (depth + 1) (.object members) ↔
      (∀ member ∈ members, (text? member.1).isSome = true) ∧
        ∀ member ∈ members, Valued depth member.2 :=
  ⟨fun h => by cases h with | object hkeys hvalues => exact ⟨hkeys, hvalues⟩,
    fun h => .object h.1 h.2⟩

mutual

theorem isSome_toValue?_iff (raw : Raw) (depth : Nat) :
    (raw.toValue? depth).isSome = true ↔ raw.Valued depth := by
  cases raw with
  | null => exact iff_of_true (by rw [toValue?]; rfl) .null
  | bool b => exact iff_of_true (by rw [toValue?]; rfl) .bool
  | number t =>
    rw [toValue?, Option.isSome_map]
    exact ⟨.number, fun h => by cases h with | number ht => exact ht⟩
  | string pieces =>
    rw [toValue?, Option.isSome_map]
    exact ⟨.string, fun h => by cases h with | string hpieces => exact hpieces⟩
  | array items =>
    cases depth with
    | zero =>
      rw [toValue?]
      exact iff_of_false (by simp) fun h => by cases h
    | succ depth =>
      rw [toValue?, Option.isSome_map, isSome_itemValues?_iff items, valued_array_iff]
  | object members =>
    cases depth with
    | zero =>
      rw [toValue?]
      exact iff_of_false (by simp) fun h => by cases h
    | succ depth =>
      rw [toValue?, Option.isSome_map, isSome_memberValues?_iff members, valued_object_iff]

theorem isSome_itemValues?_iff (items : List Raw) (depth : Nat) :
    (itemValues? depth items).isSome = true ↔ ∀ item ∈ items, Valued depth item := by
  cases items with
  | nil => simp [itemValues?]
  | cons item rest =>
    rw [List.forall_mem_cons, ← isSome_toValue?_iff item, ← isSome_itemValues?_iff rest]
    cases hitem : item.toValue? depth <;> cases hrest : itemValues? depth rest <;>
      simp [itemValues?, hitem, hrest]

theorem isSome_memberValues?_iff (members : List (List Piece × Raw)) (depth : Nat) :
    (memberValues? depth members).isSome = true ↔
      (∀ member ∈ members, (text? member.1).isSome = true) ∧
        ∀ member ∈ members, Valued depth member.2 := by
  cases members with
  | nil => simp [memberValues?]
  | cons member rest =>
    obtain ⟨key, item⟩ := member
    rw [List.forall_mem_cons, List.forall_mem_cons, and_and_and_comm, ← isSome_toValue?_iff item,
      ← isSome_memberValues?_iff rest]
    cases hkey : text? key <;> cases hitem : item.toValue? depth <;>
      cases hrest : memberValues? depth rest <;>
      simp [memberValues?, hkey, hitem, hrest]

end

/-! ## The values of the parts -/

/-- The document has the value. -/
def HasValue (depth : Nat) (raw : Raw) (value : Value) : Prop := raw.toValue? depth = some value

theorem hasValue_items {depth : Nat} {items : List Raw} {values : List Value}
    (h : itemValues? depth items = some values) : List.Forall₂ (HasValue depth) items values := by
  induction items generalizing values with
  | nil => cases h; exact .nil
  | cons item rest ih =>
    simp only [itemValues?, Option.bind_eq_bind, Option.bind_eq_some_iff] at h
    obtain ⟨value, hvalue, values, hvalues, h⟩ := h
    cases h
    exact .cons hvalue (ih hvalues)

theorem hasValue_valuesUnder {depth : Nat} {members : List (List Piece × Raw)}
    {entries : List (String × Value)} (h : memberValues? depth members = some entries)
    (name : String) :
    List.Forall₂ (HasValue depth) (valuesUnder name members)
      ((entries.filter fun entry => entry.1 = name).map Prod.snd) := by
  induction members generalizing entries with
  | nil => cases h; exact .nil
  | cons member rest ih =>
    obtain ⟨key, item⟩ := member
    simp only [memberValues?, Option.bind_eq_bind, Option.bind_eq_some_iff] at h
    obtain ⟨other, hkey, value, hvalue, entries, hentries, h⟩ := h
    cases h
    by_cases hname : other = name
    · subst hname
      rw [valuesUnder_cons_of_eq hkey]
      simp only [decide_true, List.filter_cons_of_pos, List.map_cons]
      exact .cons hvalue (ih hentries)
    · rw [valuesUnder_cons_of_ne (by simpa [hkey] using hname)]
      simpa [hname] using ih hentries

theorem rel_getElem? {α β : Type} {R : α → β → Prop} {as : List α} {bs : List β}
    (h : List.Forall₂ R as bs) (i : Nat) : Option.Rel R as[i]? bs[i]? := by
  induction h generalizing i with
  | nil => exact .none
  | cons hab _ ih =>
    cases i with
    | zero => exact .some hab
    | succ i => exact ih i

theorem rel_getLast? {α β : Type} {R : α → β → Prop} {as : List α} {bs : List β}
    (h : List.Forall₂ R as bs) : Option.Rel R as.getLast? bs.getLast? := by
  rw [List.getLast?_eq_getElem?, List.getLast?_eq_getElem?, h.length_eq]
  exact rel_getElem? h _

end Raw

end ChatAssistant.Json
