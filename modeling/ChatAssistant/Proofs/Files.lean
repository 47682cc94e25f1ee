import ChatAssistant.Files

/-!
# A file that was written

The way to a file that was written is there, and what is read from it is what was written.
-/

namespace ChatAssistant.FileTree

variable {t u : FileTree}

/-- Every folder of the one tree is a folder of the other, and paths start at the same places. -/
structure Grows (t u : FileTree) : Prop where
  base : u.base = t.base
  folder : ∀ place, t.entry place = .folder → u.entry place = .folder

theorem Grows.refl (t : FileTree) : Grows t t := ⟨rfl, fun _ h => h⟩

theorem Grows.trans {v : FileTree} (h : Grows t u) (h' : Grows u v) : Grows t v :=
  ⟨h'.base.trans h.base, fun place hplace => h'.folder place (h.folder place hplace)⟩

theorem entry_eq_folder_iff {place : Place} :
    t.entry place = .folder ↔ (place.isEmpty || t.folders.contains place) = true := by
  unfold entry
  by_cases h : (place.isEmpty || t.folders.contains place) = true
  · exact ⟨fun _ => h, fun _ => if_pos h⟩
  · rw [if_neg h]
    refine ⟨fun hentry => ?_, fun hfolder => absurd hfolder h⟩
    split at hentry <;> cases hentry

theorem grows_addFolder (t : FileTree) (place : Place) :
    Grows t { t with folders := place :: t.folders } := by
  refine ⟨rfl, fun other hother => ?_⟩
  rw [entry_eq_folder_iff] at hother ⊢
  simp only [Bool.or_eq_true, List.contains_cons] at hother ⊢
  exact hother.imp id .inr

theorem grows_put (t : FileTree) (place : Place) (content : Content) : Grows t (t.put place content) :=
  ⟨rfl, fun _ hother => entry_eq_folder_iff.mpr (entry_eq_folder_iff (t := t).mp hother)⟩

/-- A way leads on where it has led once. -/
theorem Grows.walk_eq (h : Grows t u) {names : List String} {here place : Place}
    (hwalk : t.walk here names = .ok place) : u.walk here names = .ok place := by
  induction names generalizing here with
  | nil => exact hwalk
  | cons name names ih =>
    rw [walk] at hwalk ⊢
    cases hentry : t.entry here with
    | folder =>
      rw [hentry] at hwalk
      rw [h.folder here hentry]
      exact ih hwalk
    | file content =>
      rw [hentry] at hwalk
      cases hwalk
    | nothing =>
      rw [hentry] at hwalk
      cases hwalk

/-- The way that was made leads to the place at its end. -/
theorem makeWay_spec {names : List String} {here place : Place}
    (h : t.makeWay here names = .ok (u, place)) : Grows t u ∧ u.walk here names = .ok place := by
  induction names generalizing t here with
  | nil =>
    cases h
    exact ⟨.refl _, rfl⟩
  | cons name names ih =>
    rw [makeWay] at h
    rw [walk]
    cases hentry : t.entry here with
    | folder =>
      rw [hentry] at h
      obtain ⟨hgrows, hwalk⟩ := ih h
      rw [hgrows.folder here hentry]
      exact ⟨hgrows, hwalk⟩
    | file content =>
      rw [hentry] at h
      cases h
    | nothing =>
      rw [hentry] at h
      obtain ⟨hgrows, hwalk⟩ := ih h
      have hhere : ({ t with folders := here :: t.folders } : FileTree).entry here = .folder :=
        entry_eq_folder_iff.mpr (by simp)
      rw [hgrows.folder here hhere]
      exact ⟨(grows_addFolder t here).trans hgrows, hwalk⟩

theorem entry_put {place : Place} {content : Content} (h : t.entry place ≠ .folder) :
    (t.put place content).entry place = .file content := by
  have hplace : ¬(place.isEmpty || (t.put place content).folders.contains place) = true :=
    fun hfolder => h (entry_eq_folder_iff.mpr hfolder)
  have hfound : (t.put place content).files.find? (·.1 == place) = some (place, content) :=
    List.find?_cons_of_pos (beq_self_eq_true place)
  rw [entry, if_neg hplace, hfound]

theorem look_write {path text : String} (h : t.write path text = .ok u) :
    u.look path = .ok (.file (.text text)) := by
  unfold write at h
  cases hway : t.makeWay (t.startOf path) (steps path) with
  | error e =>
    rw [hway] at h
    cases h
  | ok way =>
    obtain ⟨v, place⟩ := way
    obtain ⟨hgrows, hwalk⟩ := makeWay_spec hway
    rw [hway] at h
    have hput : v.entry place ≠ .folder ∧ u = v.put place (.text text) := by
      dsimp only [bind, Except.bind] at h
      split at h
      · cases h
      · next hfolder =>
        cases h
        exact ⟨hfolder, rfl⟩
    obtain ⟨hplace, rfl⟩ := hput
    have hstart : (v.put place (.text text)).startOf path = t.startOf path := by
      unfold startOf
      rw [(hgrows.trans (grows_put v place _)).base]
    rw [look, hstart, (grows_put v place _).walk_eq hwalk]
    dsimp only [bind, Except.bind]
    rw [entry_put hplace]

theorem exists?_write {path text : String} (h : t.write path text = .ok u) : u.exists? path = true := by
  rw [exists?, look_write h]

theorem read_write {path text : String} (h : t.write path text = .ok u) : u.read path = .ok text := by
  rw [read, look_write h]
  rfl

end ChatAssistant.FileTree
