import ChatAssistant.Proofs.Command.Saved
import ChatAssistant.Proofs.Settings.Watching

/-!
# The settings file of a session

`/set` writes the whole file from the values that the store holds.  So it changes one key of what the store
held, and one key of the file where nothing has come between the file and the store.
-/

namespace ChatAssistant

open ChatAssistant.Conversation ChatAssistant.Settings

namespace Settings.Store

variable {store : Store}

theorem path_set (store : Store) (key : String) (value : Json.Value) : (store.set key value).1.path = store.path := by
  unfold set
  split <;> rfl

theorem path_of_reloadOn {disk : Disk} {files : FileTree} {fresh : Store} {change : Change}
    (h : store.reloadOn disk files = .ok (fresh, change)) : fresh.path = store.path := by
  obtain ⟨values, -, rfl, -⟩ := reloadOn_eq_ok_iff.mp h
  rfl

theorem path_of_load {files : FileTree} {path : String} (h : load files path = .ok store) : store.path = path :=
  (load_eq_ok_iff.mp h).2

/-- A value that was set is there, or one that equals it. -/
theorem get?_set_self (store : Store) (key : String) (value : Json.Value) :
    ∃ held, (store.set key value).1.get? key = some held ∧ held.same value = true := by
  unfold set
  split
  · exact ⟨value, Table.get?_insert_self key value store.values, value.same_self⟩
  · next hdiffer =>
    cases hheld : store.get? key with
    | none =>
      rw [hheld] at hdiffer
      exact absurd rfl hdiffer
    | some held =>
      rw [hheld] at hdiffer
      exact ⟨held, rfl, by simpa [differ] using hdiffer⟩

end Settings.Store

namespace Session

/-! ## The file and the store -/

/-- Reading the settings file gives what the store holds. -/
def InStep (s : Session) : Prop := s.disk.values s.files s.store.path = .ok s.store.values

/-- The turn is a `/set` that has written the settings file, or a `/reload` that has read it. -/
def Turn.Syncs (turn : Turn) : Prop :=
  ∃ color name args answer, turn.move = .command color name args ∧
    (turn.before.run color name args).output = .ok answer ∧
    (name = Command.reload.name ∨ ∃ key word rest, name = Command.set.name ∧ args = key :: word :: rest)

/-- The turn edits the files, or sets a value that is not saved. -/
def Turn.Parts (turn : Turn) : Prop :=
  (∃ files disk, turn.move = .edit files disk) ∨
    ∃ color name args failure key store, turn.move = .command color name args ∧
      turn.before.Unsaved name args failure key store

/-- Since the store last read its file or wrote it, nothing has come between the two. -/
inductive Untouched : List Turn → Prop
  | start : Untouched []
  | sync {trace : List Turn} {turn : Turn} : turn.Syncs → Untouched (trace ++ [turn])
  | keep {trace : List Turn} {turn : Turn} : Untouched trace → ¬turn.Parts → Untouched (trace ++ [turn])

variable {s t : Session}

-- What `/set` has written is what the store holds.
theorem inStep_set (hdisk : s.disk.Keeps) (hkept : Kept s.store.values) {color : Bool} {key word : String}
    {rest : List String} {answer : Option String}
    (h : (s.run color Command.set.name (key :: word :: rest)).output = .ok answer) :
    (s.run color Command.set.name (key :: word :: rest)).session.InStep ∧
      (s.run color Command.set.name (key :: word :: rest)).session.store =
        (s.store.set key (setting word rest)).1 := by
  obtain ⟨-, files, hsave, hsession⟩ := run_set_saved h
  rw [hsession, InStep, publish_eq]
  exact ⟨values_saved hdisk (kept_set hkept key word rest) hsave, rfl⟩

theorem inStep_reload {color : Bool} {args : List String} {answer : Option String}
    (h : (s.run color Command.reload.name args).output = .ok answer) :
    (s.run color Command.reload.name args).session.InStep := by
  obtain ⟨store, change, hreload, hsession⟩ := run_reload_read h
  rw [hsession, InStep, publish_eq]
  exact (kept_of_reloadOn hreload).2

theorem inStep_of_syncs (hdisk : s.disk.Keeps) (hkept : Kept s.store.values) {m : Move}
    (hm : s.move? m = some t) (h : Turn.Syncs ⟨s, m, t⟩) : t.InStep := by
  obtain ⟨color, name, args, answer, hmove, houtput, hname⟩ := h
  dsimp only at hmove houtput
  subst hmove
  cases hm
  rcases hname with rfl | ⟨key, word, rest, rfl, rfl⟩
  · exact inStep_reload houtput
  · exact (inStep_set hdisk hkept houtput).1

-- A turn that does not come between the file and the store keeps them in step.
theorem InStep.move (h : s.InStep) (hdisk : s.disk.Keeps) (hkept : Kept s.store.values) {m : Move}
    (hm : s.move? m = some t) (hparts : ¬Turn.Parts ⟨s, m, t⟩) : t.InStep := by
  cases m with
  | command color name args =>
    cases hm
    have heffect := effect_run s color name args
    generalize hafter : (s.run color name args).session = t, (s.run color name args).output = output
      at heffect hparts ⊢
    cases heffect with
    | keep | quit | clear | configure => exact h
    | @save key word rest store change files hname hargs hkey hset hsave =>
      rw [InStep, publish_eq]
      have hstore : store = (s.store.set key (setting word rest)).1 := by rw [hset]
      exact values_saved hdisk (hstore ▸ kept_set hkept key word rest) hsave
    | @unsaved failure key store hunsaved =>
      exact absurd (.inr ⟨color, name, args, failure, key, store, rfl, hunsaved⟩) hparts
    | @reload store change text hname hreload =>
      rw [InStep, publish_eq]
      exact (kept_of_reloadOn hreload).2
  | chat respond message context =>
    cases hm
    exact h
  | edit files disk => exact absurd (.inl ⟨files, disk, rfl⟩) hparts
  | receive =>
    obtain ⟨r, -, hreceive⟩ := Option.bind_eq_some_iff.mp hm
    obtain ⟨⟨delivery, left⟩, -, rfl⟩ := Option.map_eq_some_iff.mp hreceive
    exact h

theorem disk_move {m : Move} (hm : s.move? m = some t) (hedit : ∀ files disk, m ≠ .edit files disk) :
    t.disk = s.disk := by
  cases m with
  | command color name args =>
    cases hm
    exact disk_run s color name args
  | chat respond message context =>
    cases hm
    rfl
  | edit files disk => exact absurd rfl (hedit files disk)
  | receive =>
    obtain ⟨r, -, hreceive⟩ := Option.bind_eq_some_iff.mp hm
    obtain ⟨⟨delivery, left⟩, -, rfl⟩ := Option.map_eq_some_iff.mp hreceive
    rfl

/-- Where nothing has come between them, the file gives what the store holds. -/
theorem Run.inStep {trace : List Turn} (hrun : Run s trace t) (hstart : s.InStep) (hkept : Kept s.store.values)
    (h : Untouched trace) (hdisk : t.disk.Keeps) : t.InStep := by
  induction hrun with
  | nil => exact hstart
  | @snoc trace t u m hbefore hm ih =>
    generalize hlonger : trace ++ [⟨t, m, u⟩] = longer at h
    cases h with
    | start => simp at hlonger
    | sync hsyncs =>
      obtain ⟨-, rfl⟩ := List.append_inj' hlonger rfl |>.imp_right List.singleton_inj.mp
      have hsame : u.disk = t.disk := disk_move hm fun files disk hedit => by
        obtain ⟨color, name, args, answer, hmove, -⟩ := hsyncs
        cases hmove.symm.trans hedit
      exact inStep_of_syncs (hsame ▸ hdisk) (hbefore.kept hkept) hm hsyncs
    | keep huntouched hparts =>
      obtain ⟨rfl, rfl⟩ := List.append_inj' hlonger rfl |>.imp_right List.singleton_inj.mp
      have hsame : u.disk = t.disk := disk_move hm fun files disk hedit =>
        hparts (.inl ⟨files, disk, hedit⟩)
      exact (ih huntouched (hsame ▸ hdisk)).move (hsame ▸ hdisk) (hbefore.kept hkept) hm hparts

theorem path_move {m : Move} (hm : s.move? m = some t) : t.store.path = s.store.path := by
  cases m with
  | command color name args =>
    cases hm
    rcases store_run_cases s color name args with
      hstore | ⟨key, word, rest, -, -, -, hstore⟩ | ⟨change, -, hreload⟩
    · rw [hstore]
    · rw [hstore, Store.path_set]
    · exact Store.path_of_reloadOn hreload
  | chat respond message context =>
    cases hm
    rfl
  | edit files disk =>
    cases hm
    rfl
  | receive =>
    obtain ⟨r, -, hreceive⟩ := Option.bind_eq_some_iff.mp hm
    obtain ⟨⟨delivery, left⟩, -, rfl⟩ := Option.map_eq_some_iff.mp hreceive
    rfl

theorem Run.path {trace : List Turn} (hrun : Run s trace t) : t.store.path = s.store.path := by
  induction hrun with
  | nil => rfl
  | snoc _ hm ih => exact (path_move hm).trans ih

/-! ## One key of the file -/

/-- A setting that `/set` has updated has its new value in the file, and under all other keys the file has
what the store held, whatever the file has held before: edits that the store has not read are lost.  Where
nothing has come between the file and the store since the store last read it or wrote it, this is what the
file has given before the command. -/
theorem set_changes_one_key {files : FileTree} {path : String} {store : Store} {client : Client}
    {trace : List Turn} (hload : Store.load files path = .ok store)
    (hrun : Run (start client store files) trace s) (hdisk : s.disk.Keeps) {color : Bool} {key word : String}
    {rest : List String}
    (hupdated : (s.run color Command.set.name (key :: word :: rest)).output = .ok (some ("Updated " ++ key))) :
    ∃ values, s.disk.values (s.run color Command.set.name (key :: word :: rest)).session.files path = .ok values ∧
      (∃ value, Table.get? key values = some value ∧ value.same (setting word rest) = true) ∧
      (∀ other, other ≠ key → Table.get? other values = s.store.get? other) ∧
      (Untouched trace → ∃ before, s.disk.values s.files path = .ok before ∧
        ∀ other, other ≠ key → Table.get? other values = Table.get? other before) := by
  obtain ⟨hkept, hinStep⟩ := kept_of_load hload
  have hpath : s.store.path = path := hrun.path.trans (Store.path_of_load hload)
  obtain ⟨hafter, hstore⟩ := inStep_set hdisk (hrun.kept hkept) hupdated
  rw [InStep, disk_run, hstore, Store.path_set, hpath] at hafter
  have hothers : ∀ other, other ≠ key →
      Table.get? other (s.store.set key (setting word rest)).1.values = s.store.get? other := fun other hother =>
    Store.get?_set_of_ne s.store hother (setting word rest)
  refine ⟨_, hafter, Store.get?_set_self s.store key (setting word rest), hothers, fun huntouched => ?_⟩
  have hbefore : s.InStep := hrun.inStep hinStep hkept huntouched hdisk
  rw [InStep, hpath] at hbefore
  exact ⟨_, hbefore, hothers⟩

theorem set_changes_one_key_twice :
    ∃ trace s, Store.load ⟨[], [], []⟩ "config.yaml" = .ok ⟨"config.yaml", []⟩ ∧ Run fileless trace s ∧
      s.disk.Keeps ∧ Untouched trace ∧
      (s.run false Command.set.name ["ai.maxTokens", "5"]).output = .ok (some ("Updated " ++ "ai.maxTokens")) ∧
      ∃ values before,
        s.disk.values (s.run false Command.set.name ["ai.maxTokens", "5"]).session.files "config.yaml" =
          .ok values ∧
        s.disk.values s.files "config.yaml" = .ok before ∧
        (∃ value, Table.get? "ai.maxTokens" values = some value ∧ value.same (setting "5" []) = true) ∧
        ∀ other, other ≠ "ai.maxTokens" → Table.get? other values = Table.get? other before := by
  have hload : Store.load ⟨[], [], []⟩ "config.yaml" = .ok ⟨"config.yaml", []⟩ :=
    Store.load_of_not_exists (by decide +kernel)
  have hrun : Run fileless [⟨fileless, .command false Command.set.name ["ai.model", "x"], _⟩]
      (fileless.run false Command.set.name ["ai.model", "x"]).session := .snoc .nil rfl
  have hfirst : (fileless.run false Command.set.name ["ai.model", "x"]).output =
      .ok (some ("Updated " ++ "ai.model")) := by decide +kernel
  have huntouched : Untouched [⟨fileless, .command false Command.set.name ["ai.model", "x"],
      (fileless.run false Command.set.name ["ai.model", "x"]).session⟩] :=
    @Untouched.sync [] _ ⟨false, _, _, _, rfl, hfirst, .inr ⟨"ai.model", "x", [], rfl, rfl⟩⟩
  have hdisk : (fileless.run false Command.set.name ["ai.model", "x"]).session.disk.Keeps := by
    rw [disk_run]
    exact Disk.keeps_tree
  have hupdated : ((fileless.run false Command.set.name ["ai.model", "x"]).session.run false Command.set.name
      ["ai.maxTokens", "5"]).output = .ok (some ("Updated " ++ "ai.maxTokens")) := by decide +kernel
  obtain ⟨values, hvalues, hvalue, -, hothers⟩ := set_changes_one_key hload hrun hdisk hupdated
  obtain ⟨before, hbefore, hsame⟩ := hothers huntouched
  exact ⟨_, _, hload, hrun, hdisk, huntouched, hupdated, values, before, hvalues, hbefore, hvalue, hsame⟩

/-! ### A setting that is lost -/

/-- A setting that is written into the file by hand. -/
def handwritten : Values := [("ai.model", .string "x")]

/-- The files with this setting. -/
def edited : FileTree :=
  ((⟨[], [], []⟩ : FileTree).write "config.yaml" (textOf handwritten)).toOption.getD ⟨[], [], []⟩

theorem values_edited : Disk.tree.values edited "config.yaml" = .ok handwritten := by
  have hwrite : Disk.tree.write ⟨[], [], []⟩ "config.yaml" (textOf handwritten) = .ok edited := by
    have hok : ((⟨[], [], []⟩ : FileTree).write "config.yaml" (textOf handwritten)).isOk = true := by
      decide +kernel
    rw [edited]
    dsimp only [Disk.tree]
    cases hfiles : (⟨[], [], []⟩ : FileTree).write "config.yaml" (textOf handwritten) with
    | ok files => rfl
    | error e =>
      rw [hfiles] at hok
      cases hok
  have hkept : Kept handwritten :=
    .object (List.pairwise_singleton _ _) (List.forall_mem_singleton.mpr (.string _ _))
  rw [Disk.values, Disk.keeps_tree _ _ _ _ hwrite]
  dsimp only
  rw [valuesOf?_textOf hkept]

/-- The session without a settings file, after the setting was written by hand. -/
def unread : Session := { fileless with files := edited }

/-- `/set` may change other keys of the file than its own. -/
theorem set_loses_unread_setting :
    ¬ ∀ (files : FileTree) (path : String) (store : Store) (client : Client) (trace : List Turn) (s : Session)
        (color : Bool) (key word : String) (rest : List String) (before after : Values),
      Store.load files path = .ok store → Run (start client store files) trace s → s.disk = .tree →
        (s.run color Command.set.name (key :: word :: rest)).output = .ok (some ("Updated " ++ key)) →
        Disk.tree.values s.files path = .ok before →
        Disk.tree.values (s.run color Command.set.name (key :: word :: rest)).session.files path = .ok after →
          ∀ other, other ≠ key → Table.get? other after = Table.get? other before := by
  intro h
  have hload : Store.load ⟨[], [], []⟩ "config.yaml" = .ok ⟨"config.yaml", []⟩ :=
    Store.load_of_not_exists (by decide +kernel)
  have hrun : Run fileless [⟨fileless, .edit edited .tree, unread⟩] unread := .snoc .nil rfl
  have hupdated : (unread.run false Command.set.name ["ai.maxTokens", "5"]).output =
      .ok (some ("Updated " ++ "ai.maxTokens")) := by decide +kernel
  obtain ⟨hafter, hstore⟩ := inStep_set (s := unread) Disk.keeps_tree kept_nil hupdated
  have hpath : (unread.run false Command.set.name ["ai.maxTokens", "5"]).session.store.path = "config.yaml" := by
    rw [hstore, Store.path_set]
    rfl
  rw [InStep, disk_run, hpath] at hafter
  have hlost := h _ _ _ _ _ unread false "ai.maxTokens" "5" [] _ _ hload hrun rfl hupdated values_edited hafter
    "ai.model" (by decide)
  rw [hstore] at hlost
  have hnone := Store.get?_set_of_ne unread.store (show "ai.model" ≠ "ai.maxTokens" by decide) (setting "5" [])
  cases hnone.symm.trans hlost

end Session

end ChatAssistant
