import ChatAssistant.Config.Refresh
import ChatAssistant.Files
import ChatAssistant.Yaml.Printer
import ChatAssistant.Yaml.Value

/-!
# The settings store

Settings are kept in a file with one table.  The store holds the values that it last read or set, and
each operation says which keys it changed.
-/

namespace ChatAssistant.Settings

/-- The values under the keys. -/
abbrev Values := Table Json.Value

/-- The values that the text of a settings file gives; a blank text gives none. -/
def valuesOf? (text : String) : Option Values :=
  if Text.isBlankText text then some [] else Yaml.parseTable? text

/-- The text of a settings file. -/
def textOf (values : Values) : String := Yaml.printTable values

/-- How a file system answers.  Reading gives the text at a path, or none where there is no file; writing
gives the files with a text at a path.  Either may fail, and a failed write leaves the files as they are. -/
structure Disk where
  read : FileTree → String → Except Failure (Option String)
  write : FileTree → String → String → Except Failure FileTree

namespace Disk

/-- The file system that fails only where the tree of files is in the way. -/
def tree : Disk where
  read files path :=
    if !files.exists? path then .ok none
    else
      match files.read path with
      | .ok text => .ok (some text)
      | .error e => .error e.failure
  write files path text :=
    match files.write path text with
    | .ok files => .ok files
    | .error e => .error e.failure

/-- The values in a file; where there is no file, there are none. -/
def values (disk : Disk) (files : FileTree) (path : String) : Except Failure Values :=
  match disk.read files path with
  | .error failure => .error failure
  | .ok none => .ok []
  | .ok (some text) =>
    match valuesOf? text with
    | some values => .ok values
    | none => .error (.config ("Parse " ++ path ++ ": no table of settings"))

end Disk

structure Store where
  path : String
  values : Values

namespace Store

/-- The store of a file. -/
def load (files : FileTree) (path : String) : Except Failure Store :=
  (Disk.tree.values files path).map fun values => ⟨path, values⟩

theorem load_eq_ok_iff {files : FileTree} {path : String} {store : Store} :
    load files path = .ok store ↔
      Disk.tree.values files path = .ok store.values ∧ store.path = path := by
  unfold load
  obtain ⟨name, values⟩ := store
  cases Disk.tree.values files path <;> simp [Except.map, eq_comm, and_comm]

theorem load_of_not_exists {files : FileTree} {path : String} (h : files.exists? path = false) :
    load files path = .ok ⟨path, []⟩ := by
  simp only [load, Disk.values, Disk.tree, h]
  rfl

/-- The value under a key. -/
def get? (store : Store) (key : String) : Option Json.Value := Table.get? key store.values

/-- The store as a place to read settings. -/
def source (store : Store) : Source := store.get?

/-- Writes the values to the file. -/
def saveOn (disk : Disk) (store : Store) (files : FileTree) : Except Failure FileTree :=
  disk.write files store.path (textOf store.values)

def save (store : Store) (files : FileTree) : Except Failure FileTree := store.saveOn .tree files

/-- Two values, present or not, are not the same. -/
def differ : Option Json.Value → Option Json.Value → Bool
  | none, none => false
  | some a, some b => !a.same b
  | _, _ => true

/-- Puts a value under a key.  A value equal to the one that is there changes nothing. -/
def set (store : Store) (key : String) (value : Json.Value) : Store × Change :=
  if differ (store.get? key) (some value) then
    ({ store with values := Table.insert key value store.values }, Change.ofList [key])
  else (store, Change.none)

/-- The keys whose values differ between two tables. -/
def changedKeys (old new : Values) : Change :=
  Change.ofList ((Table.keys old ++ Table.keys new).filter fun key =>
    differ (Table.get? key old) (Table.get? key new))

/-- Reads the file again. -/
def reloadOn (disk : Disk) (store : Store) (files : FileTree) : Except Failure (Store × Change) :=
  (disk.values files store.path).map fun fresh =>
    ({ store with values := fresh }, changedKeys store.values fresh)

theorem reloadOn_eq_ok_iff {disk : Disk} {store fresh : Store} {files : FileTree} {change : Change} :
    store.reloadOn disk files = .ok (fresh, change) ↔
      ∃ values, disk.values files store.path = .ok values ∧
        fresh = { store with values } ∧ change = changedKeys store.values values := by
  unfold reloadOn
  cases disk.values files store.path <;> simp [Except.map, eq_comm]

def reload (store : Store) (files : FileTree) : Except Failure (Store × Change) :=
  store.reloadOn .tree files

end Store

end ChatAssistant.Settings
