import ChatAssistant.Command.Session

/-!
# What a command does

Each command changes a session in one of a few ways, or leaves it as it is.  All that is said about
commands elsewhere follows from this list.
-/

namespace ChatAssistant

open ChatAssistant.Conversation ChatAssistant.Settings

namespace Session

/-- The value that `/set` takes from its words. -/
def setting (word : String) (rest : List String) : Json.Value :=
  valueOfText (" ".intercalate (word :: rest))

/-- The words ask for a setting that cannot be saved: `store` is the store that holds it already. -/
structure Unsaved (s : Session) (name : String) (args : List String) (failure : Failure)
    (key : String) (store : Store) : Prop where
  name_eq : name = Command.set.name
  args_eq : ∃ word rest, args = key :: word :: rest ∧
    store = (s.store.set key (setting word rest)).1
  key_mem : key ∈ Key.names
  save_eq : store.saveOn s.disk s.files = .error failure

/-- The session after a command and what the command answers. -/
inductive Effect (s : Session) (name : String) (args : List String) :
    Session → Except Failure (Option String) → Prop
  | keep (output : Except Failure (Option String)) : Effect s name args s output
  | quit (hname : name = Command.quit.name) : Effect s name args { s with running := false } (.ok none)
  | clear (text : String) :
      Effect s name args { s with client := s.client.clear.client } (.ok (some text))
  | configure (update : Config → Config) (text : String)
      (hname : name = Command.model.name ∨ name = Command.provider.name) :
      Effect s name args (s.configure update) (.ok (some text))
  | save {key word : String} {rest : List String} {store : Store} {change : Change}
      {files : FileTree} (hname : name = Command.set.name) (hargs : args = key :: word :: rest)
      (hkey : key ∈ Key.names) (hset : s.store.set key (setting word rest) = (store, change))
      (hsave : store.saveOn s.disk s.files = .ok files) :
      Effect s name args ({ s with store, files }.publish change).1
        (.ok (some ("Updated " ++ key)))
  | unsaved {failure : Failure} {key : String} {store : Store}
      (h : s.Unsaved name args failure key store) :
      Effect s name args { s with store } (.error failure)
  | reload {store : Store} {change : Change} (text : String)
      (hname : name = Command.reload.name)
      (hreload : s.store.reloadOn s.disk s.files = .ok (store, change)) :
      Effect s name args ({ s with store }.publish change).1 (.ok (some text))

variable {s : Session}

theorem publish_of_isEmpty {change : Change} (h : change.isEmpty = true) :
    (s.publish change).1 = s := by
  rw [publish, if_pos h]

theorem publish_eq (s : Session) (change : Change) :
    (s.publish change).1 = { s with changes := (s.publish change).1.changes } := by
  unfold publish
  split
  · rfl
  · split <;> rfl

theorem store_publish (s : Session) (change : Change) : (s.publish change).1.store = s.store := by
  rw [publish_eq]

theorem config_publish (s : Session) (change : Change) :
    (s.publish change).1.config = s.config := by
  rw [publish_eq]
  rfl

theorem effect_runModel {name : String} (hname : name = Command.model.name) (args : List String) :
    Effect s name args (s.runModel args).session (s.runModel args).output := by
  cases args with
  | nil => exact .keep _
  | cons => exact .configure _ _ (.inl hname)

theorem effect_runProvider {name : String} (hname : name = Command.provider.name)
    (args : List String) :
    Effect s name args (s.runProvider args).session (s.runProvider args).output := by
  cases args with
  | nil => exact .keep _
  | cons wanted rest =>
    dsimp only [runProvider]
    cases Provider.parse wanted with
    | error => exact .keep _
    | ok provider => exact .configure (Config.setProvider provider) _ (.inr hname)

theorem effect_runSet {name : String} (hname : name = Command.set.name) (args : List String) :
    Effect s name args (s.runSet args).session (s.runSet args).output := by
  unfold runSet
  split
  · next key word rest =>
    by_cases hkey : Key.names.contains key = true
    · rw [if_pos hkey]
      have hmem : key ∈ Key.names := List.contains_iff_mem.mp hkey
      unfold setValue
      split
      next store change hset =>
      dsimp only
      split
      · next failure hsave =>
        exact .unsaved ⟨hname, ⟨word, rest, rfl, by rw [setting, hset]⟩, hmem, hsave⟩
      · next files hsave => exact .save hname rfl hmem hset hsave
    · rw [if_neg hkey]
      exact .keep _
  · exact .keep _

theorem effect_runReload {name : String} (hname : name = Command.reload.name)
    (args : List String) :
    Effect s name args s.runReload.session s.runReload.output := by
  unfold runReload
  split
  · exact .keep _
  · next store change hreload =>
    dsimp only
    by_cases hempty : change.isEmpty = true
    · rw [if_pos hempty]
      have heffect : Effect s name args ({ s with store }.publish change).1 _ :=
        .reload "Settings unchanged." hname hreload
      rwa [publish_of_isEmpty hempty] at heffect
    · rw [if_neg hempty]
      exact .reload _ hname hreload

theorem effect_run (s : Session) (color : Bool) (name : String) (args : List String) :
    Effect s name args (s.run color name args).session (s.run color name args).output := by
  unfold run
  split
  · next command hcommand =>
    have hname := (Command.name_of_ofName? hcommand).symm
    cases command with
    | quit => exact .quit hname
    | clear => exact .clear _
    | help | models | config => exact .keep _
    | model => exact effect_runModel hname args
    | provider => exact effect_runProvider hname args
    | set => exact effect_runSet hname args
    | reload => exact effect_runReload hname args
  · exact .keep _

theorem disk_run (s : Session) (color : Bool) (name : String) (args : List String) :
    (s.run color name args).session.disk = s.disk := by
  have heffect := effect_run s color name args
  generalize (s.run color name args).session = t, (s.run color name args).output = output at heffect ⊢
  cases heffect with
  | keep | quit | clear | configure | unsaved => rfl
  | save | reload => rw [publish_eq]

-- Where `/set` answers, it has saved the store and published the change.
theorem run_set_saved {color : Bool} {key word : String} {rest : List String} {answer : Option String}
    (h : (s.run color Command.set.name (key :: word :: rest)).output = .ok answer) :
    key ∈ Key.names ∧ ∃ files, (s.store.set key (setting word rest)).1.saveOn s.disk s.files = .ok files ∧
      (s.run color Command.set.name (key :: word :: rest)).session =
        ({ s with
          store := (s.store.set key (setting word rest)).1
          files }.publish (s.store.set key (setting word rest)).2).1 := by
  by_cases hmem : Key.names.contains key = true
  · have hrun : s.run color Command.set.name (key :: word :: rest) =
        s.setValue key (setting word rest) := by
      rw [run, Command.ofName?_name]
      exact if_pos hmem
    refine ⟨List.contains_iff_mem.mp hmem, ?_⟩
    rw [hrun] at h ⊢
    unfold setValue at h ⊢
    dsimp only at h ⊢
    cases hsave : (s.store.set key (setting word rest)).1.saveOn s.disk s.files with
    | error failure =>
      rw [hsave] at h
      cases h
    | ok files => exact ⟨files, rfl, rfl⟩
  · have hrun : s.run color Command.set.name (key :: word :: rest) =
        s.fail (.input ("Unknown setting: " ++ key)) := by
      rw [run, Command.ofName?_name]
      exact if_neg hmem
    rw [hrun] at h
    cases h

-- Where `/reload` answers, it has read the store again and published what has changed.
theorem run_reload_read {color : Bool} {args : List String} {answer : Option String}
    (h : (s.run color Command.reload.name args).output = .ok answer) :
    ∃ store change, s.store.reloadOn s.disk s.files = .ok (store, change) ∧
      (s.run color Command.reload.name args).session = ({ s with store }.publish change).1 := by
  have hrun : s.run color Command.reload.name args = s.runReload := by
    rw [run, Command.ofName?_name]
    rfl
  rw [hrun] at h ⊢
  unfold runReload at h ⊢
  cases hreload : s.store.reloadOn s.disk s.files with
  | error failure =>
    rw [hreload] at h
    cases h
  | ok result =>
    obtain ⟨store, change⟩ := result
    refine ⟨store, change, rfl, ?_⟩
    dsimp only
    by_cases hempty : change.isEmpty = true
    · rw [if_pos hempty, publish_of_isEmpty hempty]
      rfl
    · rw [if_neg hempty]

/-- The store after a command: as it was, with a setting, or read again. -/
theorem store_run_cases (s : Session) (color : Bool) (name : String) (args : List String) :
    (s.run color name args).session.store = s.store ∨
      (∃ key word rest, name = Command.set.name ∧ args = key :: word :: rest ∧ key ∈ Key.names ∧
        (s.run color name args).session.store = (s.store.set key (setting word rest)).1) ∨
      ∃ change, name = Command.reload.name ∧
        s.store.reloadOn s.disk s.files = .ok ((s.run color name args).session.store, change) := by
  have heffect := effect_run s color name args
  generalize (s.run color name args).session = t, (s.run color name args).output = output at heffect ⊢
  cases heffect with
  | keep | quit | clear | configure => exact .inl rfl
  | @save key word rest store change files hname hargs hkey hset hsave =>
    refine .inr (.inl ⟨key, word, rest, hname, hargs, hkey, ?_⟩)
    rw [store_publish, hset]
  | unsaved h =>
    obtain ⟨word, rest, hargs, rfl⟩ := h.args_eq
    exact .inr (.inl ⟨_, word, rest, h.name_eq, hargs, h.key_mem, rfl⟩)
  | @reload store change text hname hreload =>
    refine .inr (.inr ⟨change, hname, ?_⟩)
    rw [store_publish, hreload]

end Session

end ChatAssistant
