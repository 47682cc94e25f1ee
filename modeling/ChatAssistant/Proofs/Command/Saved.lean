import ChatAssistant.Proofs.Command.Course
import ChatAssistant.Proofs.Json.Doubles
import ChatAssistant.Proofs.Settings.Saved

/-!
# Settings that were set and saved

From a file without settings on, all values that are set are read back from the file: none is taken for
another one, whatever its text looks like.
-/

namespace ChatAssistant

open ChatAssistant.Conversation ChatAssistant.Settings

namespace Settings

/-- Null, a truth value, an integer of sixty-four bits, or a string. -/
inductive Exact : Json.Value → Prop
  | null : Exact .null
  | bool (b : Bool) : Exact (.bool b)
  | int {n : Int} (h : Yaml.fitsNumber n = true) : Exact (.number (.int n))
  | string (s : String) : Exact (.string s)

theorem Exact.storable {v : Json.Value} (h : Exact v) (depth : Nat) : Yaml.Storable depth v := by
  cases h with
  | null => exact .null depth
  | bool b => exact .bool depth b
  | int h => exact .number depth (Yaml.isLegible_int h)
  | string s => exact .string depth s

/-- There is no settings file, or nothing is in it. -/
def Unwritten (files : FileTree) (path : String) : Prop :=
  files.exists? path = false ∨ ∃ text, files.read path = .ok text ∧ Text.isBlankText text = true

theorem Unwritten.load {files : FileTree} {path : String} (h : Unwritten files path) :
    Store.load files path = .ok ⟨path, []⟩ := by
  by_cases habsent : files.exists? path = false
  · exact Store.load_of_not_exists habsent
  · obtain ⟨text, hread, hblank⟩ := h.resolve_left habsent
    have hpresent : files.exists? path = true := Bool.not_eq_false _ ▸ habsent
    have hdisk : Disk.tree.read files path = .ok (some text) := by
      simp only [Disk.tree, hpresent, hread]
      rfl
    rw [Store.load, Disk.values, hdisk]
    dsimp only
    rw [valuesOf?, if_pos hblank]
    rfl

namespace Store

/-- Puts values under keys, one after another. -/
def setAll (store : Store) (entries : List (Key × Json.Value)) : Store :=
  entries.foldl (fun store entry => (store.set entry.1.name entry.2).1) store

/-- The file gives the very values of the store, and reading it again changes nothing. -/
structure SavedIn (store : Store) (files : FileTree) : Prop where
  load : Store.load files store.path = .ok store
  reload : store.reload files = .ok (store, Change.none)

theorem savedIn {store : Store} {files after : FileTree} (h : Kept store.values)
    (hsave : store.save files = .ok after) : store.SavedIn after :=
  ⟨load_saved h hsave, reload_saved h hsave⟩

theorem kept_setAll {store : Store} (h : Kept store.values) {entries : List (Key × Json.Value)}
    (hentries : ∀ entry ∈ entries, Exact entry.2) : Kept (store.setAll entries).values := by
  induction entries generalizing store with
  | nil => exact h
  | cons entry entries ih =>
    rw [List.forall_mem_cons] at hentries
    exact ih (h.set entry.1.name (hentries.1.storable 127)) hentries.2

end Store

end Settings

namespace Session

/-! ## Sessions -/

/-- What is given to `/set` is read back from its text. -/
theorem storable_valueOfText (text : String) (depth : Nat) : Yaml.Storable depth (valueOfText text) := by
  unfold valueOfText
  split
  · exact .string depth text
  · exact .string depth text
  · next value harray hobject hparse =>
    obtain ⟨raw, -, hraw⟩ := Option.bind_eq_some_iff.mp hparse
    cases raw with
    | null =>
      cases hraw
      exact .null depth
    | bool b =>
      cases hraw
      exact .bool depth b
    | number t =>
      obtain ⟨n, hn, rfl⟩ := Option.map_eq_some_iff.mp hraw
      refine .number depth ?_
      rcases Json.ofText?_cases hn with ⟨i, rfl, hlow, hhigh⟩ | ⟨x, rfl, hx⟩
      · refine Yaml.isLegible_int ?_
        rw [Yaml.fitsNumber, Bool.and_eq_true, decide_eq_true_eq, decide_eq_true_eq]
        have hmax : (Json.maxCount : Int) = 0xFFFFFFFFFFFFFFFF := rfl
        omega
      · exact Yaml.isLegible_float hx
    | string pieces =>
      obtain ⟨s, -, rfl⟩ := Option.map_eq_some_iff.mp hraw
      exact .string depth s
    | array items =>
      obtain ⟨values, -, rfl⟩ := Option.map_eq_some_iff.mp hraw
      exact absurd rfl (harray values)
    | object members =>
      obtain ⟨entries, -, rfl⟩ := Option.map_eq_some_iff.mp hraw
      exact absurd rfl (hobject _)
  · exact .string depth text

variable {s t : Session}

theorem kept_set (h : Kept s.store.values) (key word : String) (rest : List String) :
    Kept (s.store.set key (setting word rest)).1.values :=
  h.set key (storable_valueOfText _ 127)

theorem kept_move (h : Kept s.store.values) {m : Move} (hm : s.move? m = some t) : Kept t.store.values := by
  cases m with
  | command color name args =>
    cases hm
    rcases store_run_cases s color name args with
      hstore | ⟨key, word, rest, -, -, -, hstore⟩ | ⟨change, -, hreload⟩
    · rwa [hstore]
    · rw [hstore]
      exact kept_set h key word rest
    · exact (kept_of_reloadOn hreload).1
  | chat respond message context =>
    cases hm
    exact h
  | edit files disk =>
    cases hm
    exact h
  | receive =>
    obtain ⟨r, -, hreceive⟩ := Option.bind_eq_some_iff.mp hm
    obtain ⟨⟨delivery, left⟩, -, rfl⟩ := Option.map_eq_some_iff.mp hreceive
    exact h

/-- Whatever is read and set in a session, its store is read back when it is saved. -/
theorem Run.kept {trace : List Turn} (hrun : Run s trace t) (h : Kept s.store.values) : Kept t.store.values := by
  induction hrun with
  | nil => exact h
  | snoc _ hm ih => exact kept_move ih hm

/-- From a file without settings on, null, truth values, integers of sixty-four bits and strings of any kind
are saved so that they are read back: a store that was saved is loaded from its file with the same values
under all keys, and reading the file again reports no change and leaves the store as it is.  This holds of
values that were put into a store, and of whatever was given to `/set`, with other moves in between or
without. -/
theorem saved_settings_read_back {files : FileTree} {path : String} (h : Unwritten files path) :
    Store.load files path = .ok ⟨path, []⟩ ∧
      (∀ entries : List (Key × Json.Value), (∀ entry ∈ entries, Exact entry.2) →
        ∀ before after, (Store.setAll ⟨path, []⟩ entries).save before = .ok after →
          (Store.setAll ⟨path, []⟩ entries).SavedIn after) ∧
      ∀ (client : Client) (trace : List Turn) (s : Session),
        Run (start client ⟨path, []⟩ files) trace s → s.disk = .tree →
          ∀ (color : Bool) (key word : String) (rest : List String),
            (s.run color Command.set.name (key :: word :: rest)).output = .ok (some ("Updated " ++ key)) →
              (s.run color Command.set.name (key :: word :: rest)).session.store.SavedIn
                (s.run color Command.set.name (key :: word :: rest)).session.files := by
  refine ⟨h.load, fun entries hentries before after hsave => ?_, ?_⟩
  · exact Store.savedIn (Store.kept_setAll kept_nil hentries) hsave
  · intro client trace s hrun hdisk color key word rest hupdated
    have hkept : Kept s.store.values := hrun.kept kept_nil
    obtain ⟨-, after, hsave, hsession⟩ := run_set_saved hupdated
    rw [hdisk] at hsave
    rw [hsession, publish_eq]
    exact Store.savedIn (kept_set hkept key word rest) hsave

/-- Strings that look like a null, a number, a comment and a member of a mapping. -/
def lookalikes : List (Key × Json.Value) :=
  [(.apiKey, .string "~"), (.model, .string "0x1F"), (.endpoint, .string " # none\n"),
   (.provider, .string "ai.model: yes")]

/-- A session without a settings file. -/
def fileless : Session := start (Client.ofConfig Config.default) ⟨"config.yaml", []⟩ ⟨[], [], []⟩

theorem saved_settings_read_back_lookalikes :
    Unwritten ⟨[], [], []⟩ "config.yaml" ∧
      (∃ after, (Store.setAll ⟨"config.yaml", []⟩ lookalikes).save ⟨[], [], []⟩ = .ok after ∧
        (Store.setAll ⟨"config.yaml", []⟩ lookalikes).SavedIn after) ∧
      ∃ trace s, Run fileless trace s ∧ trace.map Turn.move = [.command false "set" ["ai.apiKey", "null"]] ∧
        (s.run false Command.set.name ["ai.model", "-0o17"]).output = .ok (some ("Updated " ++ "ai.model")) ∧
        (s.run false Command.set.name ["ai.model", "-0o17"]).session.store.SavedIn
          (s.run false Command.set.name ["ai.model", "-0o17"]).session.files := by
  have hfile : Unwritten ⟨[], [], []⟩ "config.yaml" := .inl (by decide +kernel)
  obtain ⟨-, hset, hcommand⟩ := saved_settings_read_back hfile
  refine ⟨hfile, ?_, ?_⟩
  · have hexact : ∀ entry ∈ lookalikes, Exact entry.2 := by
      simp only [lookalikes, List.forall_mem_cons]
      exact ⟨.string _, .string _, .string _, .string _, List.forall_mem_nil _⟩
    cases hsave : (Store.setAll ⟨"config.yaml", []⟩ lookalikes).save ⟨[], [], []⟩ with
    | ok after => exact ⟨after, rfl, hset lookalikes hexact _ _ hsave⟩
    | error failure =>
      have hok : ((Store.setAll ⟨"config.yaml", []⟩ lookalikes).save ⟨[], [], []⟩).isOk = true := by
        decide +kernel
      rw [hsave] at hok
      cases hok
  · have hrun : Run fileless [⟨fileless, .command false "set" ["ai.apiKey", "null"], _⟩]
        (fileless.run false "set" ["ai.apiKey", "null"]).session := .snoc .nil rfl
    have hupdated : ((fileless.run false "set" ["ai.apiKey", "null"]).session.run false Command.set.name
        ["ai.model", "-0o17"]).output = .ok (some ("Updated " ++ "ai.model")) := by decide +kernel
    exact ⟨_, _, hrun, rfl, hupdated,
      hcommand _ _ _ hrun (disk_run _ _ _ _) false "ai.model" "-0o17" [] hupdated⟩

end Session

end ChatAssistant
