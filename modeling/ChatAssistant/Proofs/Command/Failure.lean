import ChatAssistant.Proofs.Command.Course
import ChatAssistant.Proofs.Settings.Watching

/-!
# Commands that fail

A command that fails has no effect, but for one: where a setting cannot be saved, the store keeps its new
value although the file has the old one.
-/

namespace ChatAssistant.Session

open ChatAssistant.Conversation ChatAssistant.Settings

/-- A failed command leaves the session as it was, unless it was to save a setting.  Then the store keeps the
new value under its key, and all else is as before: the other values, the files, the configuration, the
history, the changes that have been published, and whether the session goes on. -/
theorem failed_command_keeps_session {s : Session} {color : Bool} {name : String}
    {args : List String} {failure : Failure}
    (h : (s.run color name args).output = .error failure) :
    (s.run color name args).session = s ∨
      ∃ key store, s.Unsaved name args failure key store ∧
        (s.run color name args).session = { s with store } ∧
        ∀ other, other ≠ key → store.get? other = s.store.get? other := by
  have heffect := effect_run s color name args
  rw [h] at heffect
  generalize (s.run color name args).session = t at heffect ⊢
  cases heffect with
  | keep => exact .inl rfl
  | @unsaved failure key store hunsaved =>
    refine .inr ⟨key, store, hunsaved, rfl, fun other hother => ?_⟩
    obtain ⟨word, rest, -, rfl⟩ := hunsaved.args_eq
    exact Store.get?_set_of_ne s.store hother (setting word rest)

/-- A file where the way to the settings needs a folder. -/
def blockedFiles : FileTree := ⟨[(["notes"], .text "")], [], []⟩

/-- A session whose settings cannot be saved. -/
def blocked : Session :=
  start (Client.ofConfig Config.default) ⟨"notes/config.yaml", []⟩ blockedFiles

theorem failed_command_keeps_session_blocked :
    (blocked.run false "set" ["ai.model", "x"]).output = .error FileError.notFolder.failure ∧
      ((blocked.run false "set" ["ai.model", "x"]).session = blocked ∨
        ∃ key store,
          blocked.Unsaved "set" ["ai.model", "x"] FileError.notFolder.failure key store ∧
          (blocked.run false "set" ["ai.model", "x"]).session = { blocked with store } ∧
          ∀ other, other ≠ key → store.get? other = blocked.store.get? other) := by
  have houtput : (blocked.run false "set" ["ai.model", "x"]).output =
      .error FileError.notFolder.failure := by decide +kernel
  exact ⟨houtput, failed_command_keeps_session houtput⟩

/-- A failed command may leave a value in the store. -/
theorem failed_save_changes_store :
    ¬ ∀ (files : FileTree) (path : String) (store : Store) (client : Client) (trace : List Turn)
        (s : Session) (color : Bool) (name : String) (args : List String) (failure : Failure),
      Store.load files path = .ok store → Run (start client store files) trace s →
        (s.run color name args).output = .error failure →
          (s.run color name args).session.store.values = s.store.values := by
  intro h
  have hload : Store.load blockedFiles "notes/config.yaml" = .ok ⟨"notes/config.yaml", []⟩ :=
    Store.load_of_not_exists (by decide +kernel)
  have hvalues := h blockedFiles "notes/config.yaml" ⟨"notes/config.yaml", []⟩
    (Client.ofConfig Config.default) [] blocked false "set" ["ai.model", "x"]
    FileError.notFolder.failure hload .nil (by decide +kernel)
  exact absurd (congrArg List.length hvalues) (by decide +kernel)

end ChatAssistant.Session
