import ChatAssistant.Json.Record
import Mathlib.Data.List.Forall2
import Mathlib.Data.List.Nodup

/-!
# Fields of records

Which fields a value has when it is read as a record with given names, said without the places that the
reader fills one by one.
-/

namespace ChatAssistant.Json.Raw

/-- What an object has under a name, in order. -/
def valuesUnder (name : String) (members : List (List Piece × Raw)) : List Raw :=
  (members.filter fun member => text? member.1 = some name).map Prod.snd

/-- A record and its fields: an object of which every key is a text and each name stands at most once,
or an array of the fields in order, with some left out at its end. -/
inductive IsRecord (names : List String) : Raw → List (Option Raw) → Prop
  | object {members : List (List Piece × Raw)} {fields : List (Option Raw)} :
      (∀ member ∈ members, (text? member.1).isSome = true) →
      List.Forall₂ (fun name field => valuesUnder name members = field.toList) names fields →
        IsRecord names (.object members) fields
  | array {items : List Raw} {missing : Nat} : items.length + missing = names.length →
      IsRecord names (.array items) (items.map some ++ List.replicate missing none)

theorem valuesUnder_nil (name : String) : valuesUnder name [] = [] := rfl

theorem valuesUnder_cons_of_eq {key : List Piece} {name : String} (h : text? key = some name)
    (value : Raw) (rest : List (List Piece × Raw)) :
    valuesUnder name ((key, value) :: rest) = value :: valuesUnder name rest := by
  simp [valuesUnder, h]

theorem valuesUnder_cons_of_ne {key : List Piece} {name : String} (h : text? key ≠ some name)
    (value : Raw) (rest : List (List Piece × Raw)) :
    valuesUnder name ((key, value) :: rest) = valuesUnder name rest := by
  simp [valuesUnder, h]

/-- The fields after some members have been put to the values that are there. -/
def Placed (names : List String) (members : List (List Piece × Raw))
    (values fields : List (Option Raw)) : Prop :=
  fields.length = names.length ∧ ∀ (i : Nat) (name : String), names[i]? = some name →
    values[i]?.join.toList ++ valuesUnder name members = fields[i]?.join.toList

theorem eq_of_toList_eq {a b : Option Raw} (h : a.toList = b.toList) : a = b := by
  cases a <;> cases b <;> simp_all

theorem placed_nil_iff {names : List String} {values fields : List (Option Raw)}
    (hlength : values.length = names.length) : Placed names [] values fields ↔ values = fields := by
  constructor
  · rintro ⟨hfields, hplaced⟩
    refine List.ext_getElem (hlength.trans hfields.symm) fun i hvalues hi => ?_
    have hi' := hplaced i _ (List.getElem?_eq_getElem (hlength ▸ hvalues))
    rw [valuesUnder_nil, List.append_nil, List.getElem?_eq_getElem hvalues,
      List.getElem?_eq_getElem hi] at hi'
    exact eq_of_toList_eq hi'
  · rintro rfl
    exact ⟨hlength, fun i name _ => List.append_nil _⟩

theorem placed_cons_of_not_mem {names : List String} {key : List Piece} {name : String}
    (hkey : text? key = some name) (hname : name ∉ names) (value : Raw)
    (rest : List (List Piece × Raw)) (values fields : List (Option Raw)) :
    Placed names ((key, value) :: rest) values fields ↔ Placed names rest values fields := by
  refine and_congr_right fun _ => forall_congr' fun i => forall_congr' fun other =>
    forall_congr' fun hother => ?_
  have hne : text? key ≠ some other := by
    rintro h
    cases hkey.symm.trans h
    exact hname (List.mem_of_getElem? hother)
  rw [valuesUnder_cons_of_ne hne]

theorem not_placed_of_repeated {names : List String} {key : List Piece} {name : String} {i : Nat}
    (hkey : text? key = some name) (hi : names[i]? = some name) {value : Raw}
    {rest : List (List Piece × Raw)} {values fields : List (Option Raw)}
    (hvalue : values[i]?.join.isSome = true) :
    ¬ Placed names ((key, value) :: rest) values fields := by
  rintro ⟨-, hplaced⟩
  have hi := congrArg List.length (hplaced i name hi)
  obtain ⟨first, hfirst⟩ := Option.isSome_iff_exists.mp hvalue
  rw [valuesUnder_cons_of_eq hkey, hfirst] at hi
  cases hfield : fields[i]?.join <;> simp [hfield] at hi

theorem placed_cons_of_mem {names : List String} (hnames : names.Nodup) {key : List Piece}
    {name : String} {i : Nat} (hkey : text? key = some name) (hi : names[i]? = some name)
    {value : Raw} {rest : List (List Piece × Raw)} {values fields : List (Option Raw)}
    (hlength : values.length = names.length) (hvalue : values[i]?.join = none) :
    Placed names ((key, value) :: rest) values fields ↔
      Placed names rest (setField values i value) fields := by
  refine and_congr_right fun _ => forall_congr' fun j => forall_congr' fun other =>
    forall_congr' fun hother => ?_
  have hlt : i < values.length := by
    rw [hlength]
    exact (List.getElem?_eq_some_iff.mp hi).1
  by_cases hj : i = j
  · subst hj
    cases hi.symm.trans hother
    rw [valuesUnder_cons_of_eq hkey, hvalue, setField, List.getElem?_set_self hlt]
    rfl
  · have hne : text? key ≠ some other := by
      intro h
      cases hkey.symm.trans h
      have hbound := (List.getElem?_eq_some_iff.mp hi).1
      exact hj ((List.getElem?_inj hbound hnames).mp (hi.trans hother.symm))
    rw [valuesUnder_cons_of_ne hne, setField, List.getElem?_set_ne hj]

theorem placeMembers_eq_some_iff {names : List String} (hnames : names.Nodup)
    {members : List (List Piece × Raw)} {values fields : List (Option Raw)}
    (hlength : values.length = names.length) :
    placeMembers names members values = some fields ↔
      (∀ member ∈ members, (text? member.1).isSome = true) ∧ Placed names members values fields := by
  induction members generalizing values with
  | nil => simp [placeMembers, placed_nil_iff hlength]
  | cons member rest ih =>
    obtain ⟨key, value⟩ := member
    rw [placeMembers, List.forall_mem_cons]
    split
    · next hkey => simp [hkey]
    · next name hkey =>
      have hsome : (text? key).isSome = true := by rw [hkey]; rfl
      split
      · next hnone =>
        rw [ih hlength, placed_cons_of_not_mem hkey (List.idxOf?_eq_none_iff.mp hnone)]
        simp [hsome]
      · next i hi =>
        have hi : names[i]? = some name := by
          obtain ⟨hbound, hname, -⟩ := List.idxOf?_eq_some_iff.mp hi
          rw [List.getElem?_eq_getElem hbound, hname]
        split
        · next hrepeated => simp [not_placed_of_repeated hkey hi hrepeated]
        · next hfree =>
          rw [ih (by simp [setField, hlength]),
            placed_cons_of_mem hnames hkey hi hlength (by simpa using hfree)]
          simp [hsome]

theorem placed_none_iff {names : List String} {members : List (List Piece × Raw)}
    {fields : List (Option Raw)} :
    Placed names members (names.map fun _ => none) fields ↔
      List.Forall₂ (fun name field => valuesUnder name members = field.toList) names fields := by
  rw [List.forall₂_iff_get]
  constructor
  · rintro ⟨hlength, hplaced⟩
    refine ⟨hlength.symm, fun i hi hfield => ?_⟩
    have hplace := hplaced i _ (List.getElem?_eq_getElem hi)
    simpa [List.getElem?_eq_getElem hfield, hi] using hplace
  · rintro ⟨hlength, hfields⟩
    refine ⟨hlength.symm, fun i name hname => ?_⟩
    obtain ⟨hi, rfl⟩ := List.getElem?_eq_some_iff.mp hname
    simpa [List.getElem?_eq_getElem (hlength ▸ hi), hi] using hfields i hi (hlength ▸ hi)

/-- Reading a record finds its fields. -/
theorem fields?_eq_some_iff {names : List String} (hnames : names.Nodup) {raw : Raw}
    {fields : List (Option Raw)} : raw.fields? names = some fields ↔ raw.IsRecord names fields := by
  cases raw with
  | null | bool | number | string =>
    constructor <;> intro h <;> cases h
  | array items =>
    rw [fields?]
    constructor
    · intro h
      split at h
      · next hlength =>
        cases h
        exact .array (by omega)
      · cases h
    · rintro (_ | ⟨hlength⟩)
      next missing =>
      have hmissing : names.length - items.length = missing := by omega
      rw [if_pos (by omega), hmissing]
  | object members =>
    rw [fields?, placeMembers_eq_some_iff hnames (List.length_map _), placed_none_iff]
    constructor
    · rintro ⟨hkeys, hfields⟩
      exact .object hkeys hfields
    · rintro ⟨hkeys, hfields⟩
      exact ⟨hkeys, hfields⟩

end ChatAssistant.Json.Raw
