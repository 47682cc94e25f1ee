import ChatAssistant.Json.Decode

/-!
# Records in JSON documents

A record with named fields is written as an object, or as an array of its fields in order.  In an
object a field stands at most once and members of other names are passed over; an array may leave out
fields at its end and holds nothing more.
-/

namespace ChatAssistant.Json.Raw

/-- The place of a field. -/
def setField (values : List (Option Raw)) (index : Nat) (value : Raw) : List (Option Raw) :=
  values.set index (some value)

/-- Puts the members of an object into the places of their fields; a repeated field is refused. -/
def placeMembers (names : List String) :
    List (List Piece × Raw) → List (Option Raw) → Option (List (Option Raw))
  | [], values => some values
  | (key, value) :: rest, values =>
    match text? key with
    | none => none
    | some name =>
      match names.idxOf? name with
      | none => placeMembers names rest values
      | some i =>
        if (values[i]?.join).isSome then none
        else placeMembers names rest (setField values i value)

/-- The fields of a record, each present or not. -/
def fields? (names : List String) : Raw → Option (List (Option Raw))
  | object members => placeMembers names members (names.map fun _ => none)
  | array items =>
    if items.length ≤ names.length then
      some (items.map some ++ List.replicate (names.length - items.length) none)
    else none
  | _ => none

/-- An optional value: absent and `null` are none. -/
def optional? {α : Type} (read : Raw → Option α) : Option Raw → Option (Option α)
  | none | some null => some none
  | some raw => (read raw).map some

/-- A string. -/
def toText? : Raw → Option String
  | string s => text? s
  | _ => none

/-- The name of a choice without data: a string, or an object with that one key over `null`. -/
def variant? : Raw → Option String
  | string s => text? s
  | object [(key, null)] => text? key
  | _ => none

/-- Reads every item of an array. -/
def items? {α : Type} (read : Raw → Option α) : Raw → Option (List α)
  | array items => items.mapM read
  | _ => none

/-- A count of sixty-four bits. -/
def count? : Raw → Option Nat
  | number t => (Number.ofText? t).bind Number.toCount?
  | _ => none

end ChatAssistant.Json.Raw
