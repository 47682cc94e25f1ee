/-!
# Tables in key order

A table is a list of keyed values in ascending order of their keys, each key once.  The order is
that of code points, so printing a table front to back prints it sorted.
-/

namespace ChatAssistant

/-- A list of keyed values; `Table.insert` keeps it ascending in the keys, each key once. -/
abbrev Table (α : Type) := List (String × α)

namespace Table

variable {α : Type}

/-- The value under a key. -/
def get? (key : String) : Table α → Option α
  | [] => none
  | (k, v) :: rest => if k = key then some v else get? key rest

/-- Puts a value under a key, in place of the value that is there. -/
def insert (key : String) (value : α) : Table α → Table α
  | [] => [(key, value)]
  | (k, v) :: rest =>
    if key < k then (key, value) :: (k, v) :: rest
    else if k = key then (key, value) :: rest
    else (k, v) :: insert key value rest

/-- Takes a key and its value out. -/
def erase (key : String) (t : Table α) : Table α :=
  t.filter fun entry => entry.1 ≠ key

/-- The keys, ascending. -/
def keys (t : Table α) : List String :=
  t.map Prod.fst

/-- The table of a list of entries; of two with one key the later counts. -/
def ofList (entries : List (String × α)) : Table α :=
  entries.foldl (fun t entry => t.insert entry.1 entry.2) []

theorem get?_insert_self (key : String) (value : α) (t : Table α) :
    (t.insert key value).get? key = some value := by
  induction t with
  | nil => simp [insert, get?]
  | cons entry rest ih =>
    obtain ⟨k, v⟩ := entry
    unfold insert
    split
    · simp [get?]
    · split
      · simp [get?]
      · next hne => simp [get?, hne, ih]

theorem get?_insert_of_ne {key other : String} (h : other ≠ key) (value : α) (t : Table α) :
    (t.insert key value).get? other = t.get? other := by
  induction t with
  | nil => simp [insert, get?, Ne.symm h]
  | cons entry rest ih =>
    obtain ⟨k, v⟩ := entry
    unfold insert
    split
    · simp [get?, Ne.symm h]
    · split
      · next hk => subst hk; simp [get?, Ne.symm h]
      · simp [get?, ih]

theorem get?_foldl_insert (key : String) (entries : List (String × α)) (t : Table α) :
    get? key (entries.foldl (fun t entry => t.insert entry.1 entry.2) t) =
      ((entries.filter fun entry => entry.1 = key).map Prod.snd).getLast?.or (t.get? key) := by
  induction entries generalizing t with
  | nil => rfl
  | cons entry rest ih =>
    obtain ⟨k, v⟩ := entry
    rw [List.foldl_cons, ih]
    by_cases hk : k = key
    · subst hk
      simp only [get?_insert_self, decide_true, List.filter_cons_of_pos, List.map_cons,
        List.getLast?_cons]
      cases ((rest.filter fun entry => entry.1 = k).map Prod.snd).getLast? <;> rfl
    · simp only [get?_insert_of_ne (Ne.symm hk), hk, decide_false, Bool.false_eq_true,
        not_false_eq_true, List.filter_cons_of_neg]

/-- Of the entries with one key the last one is found. -/
theorem get?_ofList (key : String) (entries : List (String × α)) :
    get? key (ofList entries) =
      ((entries.filter fun entry => entry.1 = key).map Prod.snd).getLast? := by
  rw [ofList, get?_foldl_insert]
  exact Option.or_none

end Table

/-- A set of keys in ascending order, each key once. -/
abbrev KeySet := List String

namespace KeySet

/-- Adds a key that is not there yet at its place. -/
def insert (key : String) : KeySet → KeySet
  | [] => [key]
  | k :: rest =>
    if key < k then key :: k :: rest
    else if k = key then k :: rest
    else k :: insert key rest

/-- The set of the keys of a list. -/
def ofList (keys : List String) : KeySet :=
  keys.foldl (fun set key => set.insert key) []

theorem mem_insert {key other : String} {set : KeySet} :
    other ∈ KeySet.insert key set ↔ other = key ∨ other ∈ set := by
  induction set with
  | nil => simp [insert]
  | cons k rest ih =>
    unfold insert
    split
    · simp
    · split
      · next hk => subst hk; simp
      · simp [ih]; grind

theorem mem_foldl_insert {other : String} {keys : List String} {set : KeySet} :
    other ∈ keys.foldl (fun set key => KeySet.insert key set) set ↔ other ∈ keys ∨ other ∈ set := by
  induction keys generalizing set with
  | nil => simp
  | cons k rest ih => simp [ih, mem_insert]; grind

/-- Building the set loses no key and adds none. -/
theorem mem_ofList {other : String} {keys : List String} :
    other ∈ KeySet.ofList keys ↔ other ∈ keys := by
  simp [ofList, mem_foldl_insert]

end KeySet

end ChatAssistant
