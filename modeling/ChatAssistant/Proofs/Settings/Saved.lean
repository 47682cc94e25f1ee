import ChatAssistant.Proofs.Files
import ChatAssistant.Proofs.Text.Blank
import ChatAssistant.Proofs.Yaml.Readings
import ChatAssistant.Settings.Store

/-!
# Settings that were saved

A store whose values are read back from their texts is read back from the file that it was saved to, and
reading the file again changes nothing in it.
-/

namespace ChatAssistant

/-! ## Equal values -/

theorem Number.Finite.same_self {f : Number.Format} (x : Number.Finite f) : x.same x = true := by
  rw [same]
  split
  · assumption
  · simp

namespace Json

theorem Number.same_self (n : Number) : n.same n = true := by
  cases n with
  | int n => exact beq_self_eq_true n
  | float x => exact x.same_self

mutual

theorem Value.same_self (v : Value) : v.same v = true := by
  match v with
  | .null => rfl
  | .bool b => exact beq_self_eq_true b
  | .number n => exact n.same_self
  | .string s => exact beq_self_eq_true s
  | .array items => exact sameItems_self items
  | .object members => exact sameMembers_self members

theorem Value.sameItems_self (items : List Value) : sameItems items items = true := by
  match items with
  | [] => rfl
  | item :: items => rw [sameItems, Value.same_self item, sameItems_self items, Bool.and_self]

theorem Value.sameMembers_self (members : List (String × Value)) : sameMembers members members = true := by
  match members with
  | [] => rfl
  | (key, value) :: members =>
    rw [sameMembers, Value.same_self value, sameMembers_self members, beq_self_eq_true]
    rfl

end

end Json

namespace Settings

open ChatAssistant.Yaml

theorem Store.differ_self (v : Option Json.Value) : Store.differ v v = false := by
  cases v with
  | none => rfl
  | some v => rw [Store.differ, v.same_self, Bool.not_true]

theorem Store.changedKeys_self (values : Values) : Store.changedKeys values values = Change.none := by
  rw [Store.changedKeys, List.filter_eq_nil_iff.mpr]
  · rfl
  · intro key _
    rw [Store.differ_self]
    decide

/-! ## Files and the values in them -/

/-- The values in a file: none where there is no file or a blank one, otherwise the table in its text. -/
inductive Disk.Holds (disk : Disk) (files : FileTree) (path : String) : Values → Prop
  | missing : disk.read files path = .ok none → disk.Holds files path []
  | blank {text : String} : disk.read files path = .ok (some text) →
      Text.isBlankText text = true → disk.Holds files path []
  | table {text : String} {values : Values} : disk.read files path = .ok (some text) →
      Text.isBlankText text = false → Yaml.parseTable? text = some values →
        disk.Holds files path values

theorem Disk.values_eq_ok_iff {disk : Disk} {files : FileTree} {path : String} {values : Values} :
    disk.values files path = .ok values ↔ disk.Holds files path values := by
  unfold Disk.values
  constructor
  · intro h
    split at h
    · cases h
    · next hread =>
      cases h
      exact .missing hread
    · next text hread =>
      unfold valuesOf? at h
      cases hblank : Text.isBlankText text with
      | true =>
        rw [hblank] at h
        cases h
        exact .blank hread hblank
      | false =>
        rw [hblank, if_neg (by decide)] at h
        split at h
        · next htable =>
          cases h
          exact .table hread hblank htable
        · cases h
  · intro h
    cases h with
    | missing hread => rw [hread]
    | blank hread hblank => simp [hread, valuesOf?, hblank]
    | table hread hblank htable => simp [hread, valuesOf?, hblank, htable]

/-! ## Files that are read as they were written -/

/-- What was written to a file is read from it. -/
def Disk.Keeps (disk : Disk) : Prop :=
  ∀ files path text after, disk.write files path text = .ok after → disk.read after path = .ok (some text)

theorem Disk.keeps_tree : Disk.tree.Keeps := by
  intro files path text after h
  have hwrite : files.write path text = .ok after := by
    dsimp only [Disk.tree] at h
    cases hfiles : files.write path text with
    | error e =>
      rw [hfiles] at h
      cases h
    | ok written =>
      rw [hfiles] at h
      cases h
      rfl
  dsimp only [Disk.tree]
  rw [FileTree.exists?_write hwrite, FileTree.read_write hwrite]
  rfl

/-! ## Texts of tables -/

-- There is a colon behind every key.
theorem colon_mem_placeEntry (indent : Nat) (key : String) (value : Json.Value) (written : Nat → List Char) :
    ':' ∈ placeEntry indent key value written := by
  unfold placeEntry
  dsimp only
  split
  · split
    · simp
    · split <;> simp
  · simp

theorem isBlankText_textOf (values : Values) : Text.isBlankText (textOf values) = false := by
  cases values with
  | nil => rfl
  | cons entry values =>
    obtain ⟨key, value⟩ := entry
    refine Text.isBlankText_eq_false_iff.mpr ⟨':', ?_, rfl⟩
    rw [textOf, printTable, String.toList_ofList, writeValue, if_neg (by simp), writeEntries]
    exact List.mem_append_right _ (List.mem_append_left _ (colon_mem_placeEntry ..))

/-- Values that are read back from the text of a settings file. -/
def Kept (values : Values) : Prop := Storable Node.depthLimit (.object values)

theorem kept_iff {values : Values} :
    Kept values ↔ values.Ascending ∧ ∀ entry ∈ values, Storable 127 entry.2 := by
  refine ⟨fun h => ?_, fun h => .object h.1 h.2⟩
  cases h with
  | object hascending h => exact ⟨hascending, h⟩

theorem Kept.set {store : Store} (h : Kept store.values) (key : String) {value : Json.Value}
    (hvalue : Storable 127 value) : Kept (store.set key value).1.values := by
  rw [kept_iff] at h ⊢
  rw [Store.set]
  split
  · refine ⟨h.1.insert key value, fun entry hentry => ?_⟩
    rcases Table.mem_of_mem_insert hentry with rfl | hentry
    · exact hvalue
    · exact h.2 entry hentry
  · exact h

theorem kept_nil : Kept [] := .object .nil (List.forall_mem_nil _)

/-- What is read from a settings file is read back when it is saved. -/
theorem kept_of_values {disk : Disk} {files : FileTree} {path : String} {values : Values}
    (h : disk.values files path = .ok values) : Kept values := by
  cases Disk.values_eq_ok_iff.mp h with
  | missing | blank => exact kept_nil
  | table _ _ htable => exact storable_parseTable? htable

theorem valuesOf?_textOf {values : Values} (h : Kept values) : valuesOf? (textOf values) = some values := by
  rw [valuesOf?, isBlankText_textOf, if_neg (by decide), textOf, parseTable?_printTable h]

/-! ## Stores that were saved -/

section

variable {disk : Disk} {store : Store} {files after : FileTree}

theorem kept_of_load {path : String} (h : Store.load files path = .ok store) :
    Kept store.values ∧ Disk.tree.values files store.path = .ok store.values := by
  obtain ⟨hvalues, rfl⟩ := Store.load_eq_ok_iff.mp h
  exact ⟨kept_of_values hvalues, hvalues⟩

theorem kept_of_reloadOn {fresh : Store} {change : Change} (h : store.reloadOn disk files = .ok (fresh, change)) :
    Kept fresh.values ∧ disk.values files fresh.path = .ok fresh.values := by
  obtain ⟨values, hvalues, rfl, -⟩ := Store.reloadOn_eq_ok_iff.mp h
  exact ⟨kept_of_values hvalues, hvalues⟩

theorem values_saved (hdisk : disk.Keeps) (h : Kept store.values) (hsave : store.saveOn disk files = .ok after) :
    disk.values after store.path = .ok store.values := by
  rw [Disk.values, hdisk files store.path _ after hsave]
  dsimp only
  rw [valuesOf?_textOf h]

theorem reloadOn_saved (hdisk : disk.Keeps) (h : Kept store.values)
    (hsave : store.saveOn disk files = .ok after) :
    store.reloadOn disk after = .ok (store, Change.none) := by
  rw [Store.reloadOn, values_saved hdisk h hsave]
  exact congrArg (fun change => Except.ok (store, change)) (Store.changedKeys_self store.values)

theorem load_saved (h : Kept store.values) (hsave : store.save files = .ok after) :
    Store.load after store.path = .ok store := by
  rw [Store.load, values_saved Disk.keeps_tree h hsave]
  rfl

theorem reload_saved (h : Kept store.values) (hsave : store.save files = .ok after) :
    store.reload after = .ok (store, Change.none) :=
  reloadOn_saved Disk.keeps_tree h hsave

end

end Settings

end ChatAssistant
