import ChatAssistant.Proofs.Command.Course
import ChatAssistant.Proofs.Config.Composition
import ChatAssistant.Proofs.Settings.Freshness

/-!
# Settings in force

A setting is in force where reading it again would not change the configuration.  A parameter and its
setting come apart where one of them changes and no change of settings is published.  Until the watcher
reads the setting again they may stay apart, and `/set` does not make it read a value that is there already.
-/

namespace ChatAssistant

open ChatAssistant.Conversation ChatAssistant.Settings

namespace Session

/-! ## A setting in force -/

/-- Reading the setting of the key again leaves the configuration as it is. -/
def InForce (s : Session) (key : Key) : Prop :=
  s.config.refresh (Change.ofList [key.name]) s.store.source = s.config

instance (s : Session) (key : Key) : Decidable (s.InForce key) :=
  inferInstanceAs (Decidable (_ = _))

theorem inForce_iff {s : Session} {key : Key} :
    s.InForce key ↔
      Config.read s.store.source key (s.config.parameter key) = s.config.parameter key := by
  unfold InForce
  constructor
  · intro h
    have hparameter := congrArg (Config.parameter · key) h
    rwa [Config.parameter_refresh, if_pos (Change.affects_ofList_name.mpr rfl)] at hparameter
  · intro h
    refine Config.ext_parameter fun other => ?_
    rw [Config.parameter_refresh]
    by_cases hother : other = key
    · subst hother
      rw [if_pos (Change.affects_ofList_name.mpr rfl), h]
    · rw [if_neg fun haffects => hother (Change.affects_ofList_name.mp haffects)]

-- What is in force stays in force where the parameter is kept and the setting is read as before.
theorem InForce.keep {s t : Session} {key : Key} (h : s.InForce key)
    (hparameter : t.config.parameter key = s.config.parameter key)
    (hread : Config.read t.store.source key = Config.read s.store.source key) : t.InForce key := by
  rw [inForce_iff] at h ⊢
  rw [hparameter, hread, h]

theorem InForce.keep_of_get? {s t : Session} {key : Key} (h : s.InForce key)
    (hconfig : t.config = s.config) (hget : t.store.get? key.name = s.store.get? key.name) :
    t.InForce key :=
  h.keep (by rw [hconfig]) (Config.read_eq_of_value_eq hget)

/-! ## Turns that bring a parameter and its setting apart or together -/

namespace Turn

/-- The watcher makes the configuration read the setting of the key. -/
def Reads (turn : Turn) (key : Key) : Prop :=
  turn.move = .receive ∧ ∃ r delivery next, turn.before.watcher = some r ∧
    turn.before.changes.receive? r = some (delivery, next) ∧
    (Watcher.change delivery).affects key.name = true

/-- `/model` or `/provider` changes the parameter of the key. -/
def SetsDirectly (turn : Turn) (key : Key) : Prop :=
  (∃ color name args, turn.move = .command color name args ∧
    (name = Command.model.name ∨ name = Command.provider.name)) ∧
  turn.after.config.parameter key ≠ turn.before.config.parameter key

/-- `/set` puts a value under the key and cannot save it. -/
def FailsToSave (turn : Turn) (key : Key) : Prop :=
  ∃ color name args failure store, turn.move = .command color name args ∧
    turn.before.Unsaved name args failure key.name store

/-- `/reload` reads a zero under the key where the store has the zero of the other sign. -/
def FlipsZero (turn : Turn) (key : Key) : Prop :=
  (∃ color args, turn.move = .command color Command.reload.name args) ∧
  ∃ negative, zeroSign? (turn.before.store.get? key.name) = some negative ∧
    zeroSign? (turn.after.store.get? key.name) = some !negative

/-- The parameter of the key or its setting changes, and nothing is published. -/
def Diverts (turn : Turn) (key : Key) : Prop :=
  turn.SetsDirectly key ∨ turn.FailsToSave key ∨ turn.FlipsZero key

end Turn

/-- Since the watcher last read the setting of the key, a turn has brought the parameter and the setting
apart; or they were apart at the start, and the watcher has never read it. -/
inductive Apart (s : Session) (key : Key) : List Turn → Prop
  | start (h : ¬ s.InForce key) : Apart s key []
  | divert {trace : List Turn} {turn : Turn} (h : turn.Diverts key) : Apart s key (trace ++ [turn])
  | later {trace : List Turn} {turn : Turn} (h : Apart s key trace) (hread : ¬ turn.Reads key) :
      Apart s key (trace ++ [turn])

/-- What every run from a session keeps: a setting is in force, or a change that affects its key is on its
way to the watcher, or the parameter and the setting have been brought apart. -/
structure Follows (start : Session) (trace : List Turn) (s : Session) (published : List Change)
    (r : Receiver) : Prop where
  watches : s.Watches published r
  keys : ∀ key : Key, s.InForce key ∨ Watching.Awaits key (published.drop r.next) ∨
    Apart start key trace

variable {start s t : Session} {trace : List Turn} {published : List Change} {r : Receiver}

-- A move that is not the watcher's publishes changes for the settings that it takes out of force, or
-- brings them and their parameters apart.
theorem Follows.extend (h : Follows start trace s published r) {m : Move} (hm : m ≠ .receive)
    {more : List Change} (hwatches : t.Watches (published ++ more) r)
    (hkeys : ∀ key : Key, s.InForce key →
      t.InForce key ∨ Watching.Awaits key more ∨ Turn.Diverts ⟨s, m, t⟩ key) :
    Follows start (trace ++ [⟨s, m, t⟩]) t (published ++ more) r where
  watches := hwatches
  keys := by
    intro key
    rw [List.drop_append_of_le_length h.watches.position]
    rcases h.keys key with hforce | ⟨change, hmem, haffects⟩ | hapart
    · rcases hkeys key hforce with hforce | ⟨change, hmem, haffects⟩ | hdiverts
      · exact .inl hforce
      · exact .inr (.inl ⟨change, List.mem_append_right _ hmem, haffects⟩)
      · exact .inr (.inr (.divert hdiverts))
    · exact .inr (.inl ⟨change, List.mem_append_left _ hmem, haffects⟩)
    · exact .inr (.inr (.later hapart fun hread => hm hread.1))

-- A move that publishes nothing.
theorem Follows.extend_nil (h : Follows start trace s published r) {m : Move} (hm : m ≠ .receive)
    (hwatches : t.Watches published r)
    (hkeys : ∀ key : Key, s.InForce key → t.InForce key ∨ Turn.Diverts ⟨s, m, t⟩ key) :
    Follows start (trace ++ [⟨s, m, t⟩]) t published r := by
  have hextended : Follows start (trace ++ [⟨s, m, t⟩]) t (published ++ []) r :=
    h.extend hm (by rwa [List.append_nil]) fun key hforce => (hkeys key hforce).imp_right .inr
  rwa [List.append_nil] at hextended

/-! ## Moves -/

-- A change that affects a key is published, not passed over.
theorem awaits_published {change : Change} {key : Key} (h : change.affects key.name = true) :
    Watching.Awaits key (if change.isEmpty then [] else [change]) := by
  have hfull : ¬ change.isEmpty = true := fun hempty => by
    rw [Change.not_affects_of_isEmpty hempty] at h
    cases h
  rw [if_neg hfull]
  exact ⟨change, List.mem_singleton_self change, h⟩

-- A store is taken over, and its change is published.
theorem Follows.publish (h : Follows start trace s published r) {m : Move} (hm : m ≠ .receive)
    {store : Store} {files : FileTree} {change : Change}
    (hstore : ∀ key : Key, s.InForce key →
      Config.read store.source key = Config.read s.store.source key ∨
        change.affects key.name = true ∨
        Turn.Diverts ⟨s, m, ({ s with store, files }.publish change).1⟩ key) :
    ∃ published r, Follows start (trace ++ [⟨s, m, ({ s with store, files }.publish change).1⟩])
      ({ s with store, files }.publish change).1 published r := by
  have hwatches : Watches { s with store, files } published r :=
    ⟨h.watches.carries, h.watches.watcher, h.watches.position⟩
  refine ⟨_, r, h.extend hm (hwatches.publish change) fun key hforce => ?_⟩
  rcases hstore key hforce with hread | haffects | hdiverts
  · refine .inl (hforce.keep ?_ ?_)
    · rw [config_publish]
      rfl
    · rw [store_publish, hread]
  · exact .inr (.inl (awaits_published haffects))
  · exact .inr (.inr hdiverts)

theorem Follows.command (h : Follows start trace s published r) (color : Bool) (name : String)
    (args : List String) :
    ∃ published r, Follows start
      (trace ++ [⟨s, .command color name args, (s.run color name args).session⟩])
      (s.run color name args).session published r := by
  have heffect := effect_run s color name args
  generalize (s.run color name args).output = output at heffect
  generalize (s.run color name args).session = t at heffect ⊢
  have hm : Move.command color name args ≠ .receive := nofun
  have hwatches := h.watches
  cases heffect with
  | keep => exact ⟨_, r, h.extend_nil hm hwatches fun key hforce => .inl hforce⟩
  | quit | clear =>
    exact ⟨_, r, h.extend_nil hm ⟨hwatches.carries, hwatches.watcher, hwatches.position⟩
      fun key hforce => .inl (hforce.keep_of_get? rfl rfl)⟩
  | configure update text hname =>
    refine ⟨_, r, h.extend_nil hm ⟨hwatches.carries, hwatches.watcher, hwatches.position⟩
      fun key hforce => ?_⟩
    by_cases hkept : (update s.config).parameter key = s.config.parameter key
    · exact .inl (hforce.keep hkept rfl)
    · exact .inr (.inl ⟨⟨color, name, args, rfl, hname⟩, hkept⟩)
  | @unsaved failure changed store hunsaved =>
    refine ⟨_, r, h.extend_nil hm ⟨hwatches.carries, hwatches.watcher, hwatches.position⟩
      fun key hforce => ?_⟩
    obtain ⟨word, rest, -, hstore⟩ := hunsaved.args_eq
    by_cases hkey : key.name = changed
    · subst hkey
      exact .inr (.inr (.inl ⟨color, name, args, failure, store, rfl, hunsaved⟩))
    · refine .inl (hforce.keep_of_get? rfl ?_)
      rw [hstore]
      exact Store.get?_set_of_ne s.store hkey _
  | @save changed word rest store change files hname hargs hmem hset hsave =>
    refine h.publish hm fun key hforce => ?_
    have hkept := Store.get?_set s.store changed (setting word rest) key.name
    rw [hset] at hkept
    exact hkept.imp Config.read_eq_of_value_eq .inl
  | reload text hname hreload =>
    refine h.publish hm fun key hforce => ?_
    rcases Store.get?_reloadOn hreload key.name with hsame | haffects
    · -- Values that the store takes for equal are read alike, or are zeros of two signs.
      have halike := alike_of_not_differ hsame
      rcases halike.zeroSign?_cases with hsign | hflip
      · refine .inl ?_
        rw [← Config.read_value, ← Config.read_value s.store.source]
        exact (halike.read_eq fun _ => hsign).symm
      · obtain ⟨negative, hold, hnew⟩ := hflip
        refine .inr (.inr (.inr (.inr ⟨⟨color, args, by rw [hname]⟩, negative, hold, ?_⟩)))
        rw [store_publish]
        exact hnew
    · exact .inr (.inl haffects)

-- The watcher reads some settings; for the others nothing has changed.
theorem Follows.receive (h : Follows start trace s published r) (hm : s.receive? = some t) :
    ∃ r, Follows start (trace ++ [⟨s, .receive, t⟩]) t published r := by
  rw [h.watches.receive?_eq] at hm
  obtain ⟨delivery, hfirst, rfl⟩ := Option.map_eq_some_iff.mp hm
  have hsize := Delivery.size_le_of_first? hfirst
  have hposition := h.watches.position
  rw [List.length_drop] at hsize
  refine ⟨_, ⟨h.watches.carries, rfl, by dsimp only; omega⟩, fun key => ?_⟩
  dsimp only
  rw [← List.drop_drop]
  by_cases haffects : (Watcher.change delivery).affects key.name = true
  · refine .inl (inForce_iff.mpr ?_)
    change Config.read s.store.source key ((Watcher.apply s.store.source s.config delivery).parameter
      key) = (Watcher.apply s.store.source s.config delivery).parameter key
    rw [Watcher.apply, Config.parameter_refresh, if_pos haffects]
    exact Config.read_read s.store.source key _
  · rcases h.keys key with hforce | hawaits | hapart
    · refine .inl (hforce.keep ?_ rfl)
      change (Watcher.apply s.store.source s.config delivery).parameter key = s.config.parameter key
      rw [Watcher.apply, Config.parameter_refresh, if_neg haffects]
    · exact .inr (.inl (Watching.awaits_drop hfirst hawaits (Bool.eq_false_iff.mpr haffects)))
    · refine .inr (.inr (.later hapart ?_))
      rintro ⟨-, other, received, next, hwatcher, hreceive, hreads⟩
      cases h.watches.watcher.symm.trans hwatcher
      rw [h.watches.carries.receive?_eq hposition, hfirst] at hreceive
      cases hreceive
      exact haffects hreads

theorem Follows.move (h : Follows start trace s published r) {m : Move} (hm : s.move? m = some t) :
    ∃ published r, Follows start (trace ++ [⟨s, m, t⟩]) t published r := by
  have hwatches := h.watches
  cases m with
  | command color name args =>
    cases hm
    exact h.command color name args
  | chat respond message context =>
    cases hm
    exact ⟨_, r, h.extend_nil nofun ⟨hwatches.carries, hwatches.watcher, hwatches.position⟩
      fun key hforce => .inl (hforce.keep_of_get? (Client.config_chat s.client respond message
        context) rfl)⟩
  | edit files disk =>
    cases hm
    exact ⟨_, r, h.extend_nil nofun ⟨hwatches.carries, hwatches.watcher, hwatches.position⟩
      fun key hforce => .inl (hforce.keep_of_get? rfl rfl)⟩
  | receive => exact ⟨published, h.receive hm⟩

theorem Run.follows {client : Client} {store : Store} {files : FileTree}
    (h : Run (Session.start client store files) trace s) :
    ∃ published r, Follows (Session.start client store files) trace s published r := by
  induction h with
  | nil =>
    refine ⟨_, _, watches_start client store files, fun key => ?_⟩
    by_cases hforce : (Session.start client store files).InForce key
    · exact .inl hforce
    · exact .inr (.inr (.start hforce))
  | snoc _ hm ih =>
    obtain ⟨published, r, hbefore⟩ := ih
    exact hbefore.move hm

/-! ## Idle watchers -/

-- A parameter after deliveries: read if one of them affects its key.
theorem parameter_foldl_apply (source : Source) (deliveries : List (Delivery Change)) (c : Config)
    (key : Key) :
    (deliveries.foldl (Watcher.apply source) c).parameter key =
      if deliveries.any fun delivery => (Watcher.change delivery).affects key.name then
        Config.read source key (c.parameter key)
      else c.parameter key := by
  have hfoldl : deliveries.foldl (Watcher.apply source) c =
      c.refreshAll (deliveries.map Watcher.change) source := by
    rw [Config.refreshAll, List.foldl_map]
    rfl
  rw [hfoldl, Config.parameter_refreshAll, List.any_map]
  rfl

-- A change that is on its way arrives, or a notice in its place, which affects every key.
theorem any_upToDate_of_awaits {capacity : Nat} {rest : List Change} {key : Key}
    (h : Watching.Awaits key rest) :
    ((Delivery.upToDate capacity rest).any fun delivery =>
      (Watcher.change delivery).affects key.name) = true := by
  rw [List.any_eq_true]
  unfold Delivery.upToDate
  split
  · exact ⟨_, List.mem_cons_self, Change.affects_everything key⟩
  · obtain ⟨change, hmem, haffects⟩ := h
    exact ⟨.message change, List.mem_map_of_mem hmem, haffects⟩

-- Once the watcher is idle, what was in force or awaited is in force.
theorem Watches.inForce_settle (h : s.Watches published r) {key : Key}
    (hkey : s.InForce key ∨ Watching.Awaits key (published.drop r.next)) :
    s.settle.1.InForce key := by
  rw [inForce_iff, h.settle_eq]
  change Config.read s.store.source key (Config.parameter (List.foldl _ s.config _) key) =
    Config.parameter (List.foldl _ s.config _) key
  rw [parameter_foldl_apply]
  split
  · exact Config.read_read s.store.source key _
  · next hnone =>
    exact inForce_iff.mp (hkey.resolve_right fun hawaits => hnone (any_upToDate_of_awaits hawaits))

/-! ## `/set` -/

-- Where `/set` answers that it has updated a key, it has saved the store and published the change.
theorem run_set_updated {color : Bool} {key : Key} {word : String} {rest : List String}
    (h : (s.run color Command.set.name (key.name :: word :: rest)).output =
      .ok (some ("Updated " ++ key.name))) :
    ∃ files, (s.run color Command.set.name (key.name :: word :: rest)).session =
      ({ s with
        store := (s.store.set key.name (setting word rest)).1
        files }.publish (s.store.set key.name (setting word rest)).2).1 := by
  obtain ⟨-, files, -, hsession⟩ := run_set_saved h
  exact ⟨files, hsession⟩

/-- Once the watcher is idle, a setting that `/set` has updated is in force, but for one case: the value was
in the store already, and since the watcher last read the key its parameter and its setting have been
brought apart, by `/model` or `/provider`, by a setting that was not saved, by a zero that was read again
with the other sign, or from the start. -/
theorem updated_setting_in_force {client : Client} {store : Store} {files : FileTree}
    (hrun : Run (Session.start client store files) trace s) {color : Bool} {key : Key}
    {word : String} {rest : List String}
    (hupdated : (s.run color Command.set.name (key.name :: word :: rest)).output =
      .ok (some ("Updated " ++ key.name))) :
    (s.run color Command.set.name (key.name :: word :: rest)).session.settle.1.Idle ∧
      ((s.run color Command.set.name (key.name :: word :: rest)).session.settle.1.InForce key ∨
        Store.differ (s.store.get? key.name) (some (setting word rest)) = false ∧
          Apart (Session.start client store files) key trace) := by
  obtain ⟨published, r, hfollows⟩ := hrun.follows
  obtain ⟨saved, hsession⟩ := run_set_updated hupdated
  rw [hsession]
  have hwatches : Watches { s with
      store := (s.store.set key.name (setting word rest)).1, files := saved } published r :=
    ⟨hfollows.watches.carries, hfollows.watches.watcher, hfollows.watches.position⟩
  have hafter := hwatches.publish (s.store.set key.name (setting word rest)).2
  refine ⟨hafter.idle_settle, ?_⟩
  by_cases hdiffer : Store.differ (s.store.get? key.name) (some (setting word rest)) = true
  · -- A new value is published.
    have hchange : (s.store.set key.name (setting word rest)).2 = Change.ofList [key.name] := by
      rw [Store.set, if_pos hdiffer]
    have haffects : (s.store.set key.name (setting word rest)).2.affects key.name = true := by
      rw [hchange]
      exact Change.affects_ofList_name.mpr rfl
    refine .inl (hafter.inForce_settle (.inr ?_))
    obtain ⟨change, hmem, hchanges⟩ := awaits_published haffects
    rw [List.drop_append_of_le_length hfollows.watches.position]
    exact ⟨change, List.mem_append_right _ hmem, hchanges⟩
  · -- A value that is there already changes nothing.
    have hset : s.store.set key.name (setting word rest) = (s.store, Change.none) := by
      rw [Store.set, if_neg hdiffer]
    rw [hset] at hafter ⊢
    rw [hset] at hwatches
    rw [publish_of_isEmpty (by rfl)] at hafter ⊢
    rcases hfollows.keys key with hforce | hawaits | hapart
    · exact .inl (hwatches.inForce_settle (.inl (hforce.keep_of_get? rfl rfl)))
    · exact .inl (hwatches.inForce_settle (.inr hawaits))
    · exact .inr ⟨Bool.eq_false_iff.mpr hdiffer, hapart⟩

/-- A session without a settings file. -/
def unset : Session :=
  Session.start (Client.ofConfig Config.default) ⟨"config.yaml", []⟩ ⟨[], [], []⟩

/-- The model is set and read, and then chosen for the session alone. -/
def overriding : List Move :=
  [.command false "set" ["ai.model", "gpt-4"], .receive,
   .command false "model" ["claude-sonnet-4"]]

theorem updated_setting_in_force_overriding :
    ∃ trace s, Run unset trace s ∧ trace.map Turn.move = overriding ∧
      (s.run false Command.set.name (Key.model.name :: ["gemini-pro"])).output =
        .ok (some ("Updated " ++ Key.model.name)) ∧
      (s.run false Command.set.name (Key.model.name :: ["gemini-pro"])).session.settle.1.InForce
        .model := by
  obtain ⟨trace, s, hrun, hmoves, hupdated, hdiffer⟩ := exists_run unset overriding
    (fun s => (s.run false Command.set.name (Key.model.name :: ["gemini-pro"])).output =
        .ok (some ("Updated " ++ Key.model.name)) ∧
      Store.differ (s.store.get? Key.model.name) (some (setting "gemini-pro" [])) = true)
    (by decide +kernel)
  refine ⟨trace, s, hrun, hmoves, hupdated, ?_⟩
  refine (updated_setting_in_force hrun hupdated).2.resolve_right fun ⟨hsame, _⟩ => ?_
  rw [hdiffer] at hsame
  cases hsame

/-- A setting that `/set` reports as updated need not be in force, even with an idle watcher. -/
theorem updated_setting_not_in_force :
    ¬ ∀ (files : FileTree) (path : String) (store : Store) (trace : List Turn) (s : Session)
        (color : Bool) (key : Key) (word : String) (rest : List String),
      Store.load files path = .ok store →
        Run (Session.start (Client.ofConfig (Config.ofSource store.source)) store files) trace s →
        (s.run color Command.set.name (key.name :: word :: rest)).output =
          .ok (some ("Updated " ++ key.name)) →
        (s.run color Command.set.name (key.name :: word :: rest)).session.settle.1.InForce key := by
  intro h
  have hload : Store.load ⟨[], [], []⟩ "config.yaml" = .ok ⟨"config.yaml", []⟩ :=
    Store.load_of_not_exists (by decide +kernel)
  obtain ⟨trace, s, hrun, -, hupdated, hforce⟩ := exists_run
    (Session.start (Client.ofConfig (Config.ofSource (Store.source ⟨"config.yaml", []⟩)))
      ⟨"config.yaml", []⟩ ⟨[], [], []⟩) overriding
    (fun s => (s.run false Command.set.name (Key.model.name :: ["gpt-4"])).output =
        .ok (some ("Updated " ++ Key.model.name)) ∧
      ¬ (s.run false Command.set.name (Key.model.name :: ["gpt-4"])).session.settle.1.InForce .model)
    (by decide +kernel)
  exact hforce (h _ _ _ trace s false .model "gpt-4" [] hload hrun hupdated)

end Session

end ChatAssistant
