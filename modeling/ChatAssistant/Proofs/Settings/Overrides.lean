import ChatAssistant.Proofs.Channel
import ChatAssistant.Proofs.Config.Parameter
import ChatAssistant.Settings.Watcher

/-!
# Parameters that no change affects

Changes with any keys are published, and a watcher receives them at times of its own, from settings that
may be others each time.  A parameter whose key no published change affects is left alone, except where the
watcher has fallen behind: it has missed changes then, and reads all settings.
-/

namespace ChatAssistant.Settings.Listening

structure State where
  changes : Channel Change
  receiver : Receiver
  config : Config

inductive Move
  | publish (change : Change)
  /-- The watcher receives once; `source` is what the settings are then. -/
  | receive (source : Source)

/-- A watcher that listens from now on; `earlier` changes were published before. -/
def start (earlier : List Change) (capacity : Nat) (config : Config) : State :=
  let changes := earlier.foldl Channel.send (Channel.ofCapacity capacity)
  ⟨changes, changes.subscribe, config⟩

namespace State

/-- The state after a move, if the move can be made. -/
def move? (s : State) : Move → Option State
  | .publish change => some { s with changes := s.changes.send change }
  | .receive source =>
    (s.changes.receive? s.receiver).map fun (delivery, receiver) =>
      { s with receiver, config := Watcher.apply source s.config delivery }

/-- The trace of moves that are made in turn and the state after them, if all can be made. -/
def run? (s : State) : List Move → Option (List (State × Move) × State)
  | [] => some ([], s)
  | m :: moves => (s.move? m).bind fun t =>
    (t.run? moves).map fun (trace, u) => ((s, m) :: trace, u)

/-- The watcher has nothing left to receive. -/
def Idle (s : State) : Prop := (s.changes.receive? s.receiver).isNone = true

instance (s : State) : Decidable s.Idle := inferInstanceAs (Decidable (_ = true))

/-- How many published changes the watcher has not received. -/
def unread (s : State) : Nat := s.changes.sent - s.receiver.next

end State

/-- The moves of a run, each with the state in which it was made. -/
inductive Run (s : State) : List (State × Move) → State → Prop
  | nil : Run s [] s
  | snoc {trace : List (State × Move)} {t u : State} {m : Move} :
      Run s trace t → t.move? m = some u → Run s (trace ++ [(t, m)]) u

namespace Run

theorem cons {s t u : State} {m : Move} {trace : List (State × Move)} (hm : s.move? m = some t)
    (h : Run t trace u) : Run s ((s, m) :: trace) u := by
  induction h with
  | nil => exact snoc nil hm
  | snoc _ hlast ih => exact snoc ih hlast

theorem of_run? {s t : State} {moves : List Move} {trace : List (State × Move)}
    (h : s.run? moves = some (trace, t)) : Run s trace t ∧ trace.map Prod.snd = moves := by
  induction moves generalizing s trace with
  | nil =>
    cases h
    exact ⟨nil, rfl⟩
  | cons m moves ih =>
    obtain ⟨u, hm, hrest⟩ := Option.bind_eq_some_iff.mp h
    obtain ⟨⟨later, _⟩, hlater, heq⟩ := Option.map_eq_some_iff.mp hrest
    cases heq
    obtain ⟨hrun, hmoves⟩ := ih hlater
    exact ⟨hrun.cons hm, by rw [List.map_cons, hmoves]⟩

theorem exists_of_run? (s : State) (moves : List Move) (P : List (State × Move) → State → Prop)
    [∀ trace t, Decidable (P trace t)] (h : (s.run? moves).any (fun r => P r.1 r.2) = true) :
    ∃ trace t, Run s trace t ∧ trace.map Prod.snd = moves ∧ P trace t := by
  obtain ⟨⟨trace, t⟩, hrun, ht⟩ := (Option.any_eq_true _ _).mp h
  exact ⟨trace, t, (of_run? hrun).1, (of_run? hrun).2, of_decide_eq_true ht⟩

end Run

/-- The change is published in the run. -/
def Publishes (trace : List (State × Move)) (change : Change) : Prop :=
  Move.publish change ∈ trace.map Prod.snd

/-- The settings that are all read in this turn, because the watcher learns of missed changes. -/
def reread? : State × Move → Option Source
  | (_, .publish _) => none
  | (s, .receive source) =>
    match s.changes.receive? s.receiver with
    | some (.missed _, _) => some source
    | _ => none

/-- The settings that are all read in a run, one after another. -/
def rereads (trace : List (State × Move)) : List Source := trace.filterMap reread?

/-- A parameter after all settings have been read from each of these. -/
def readAgain (key : Key) (sources : List Source) (old : key.Parameter) : key.Parameter :=
  sources.foldl (fun old source => Config.read source key old) old

theorem readAgain_append (key : Key) (sources more : List Source) (old : key.Parameter) :
    readAgain key (sources ++ more) old = readAgain key more (readAgain key sources old) := by
  unfold readAgain
  rw [List.foldl_append]

/-! ## The watcher among the changes -/

/-- What every move keeps: the changes so far, of which the first `before` were published before the watcher
listened, and the place of the watcher among them. -/
structure Listens (capacity before : Nat) (s : State) (all : List Change) : Prop where
  carries : s.changes.Carries all
  capacity_eq : s.changes.capacity = (Channel.ofCapacity capacity : Channel Change).capacity
  started : before ≤ s.receiver.next
  position : s.receiver.next ≤ all.length

variable {capacity before : Nat} {s t : State} {all : List Change}

theorem listens_start (earlier : List Change) (capacity : Nat) (config : Config) :
    Listens capacity earlier.length (start earlier capacity config) earlier := by
  have hcarries : (earlier.foldl Channel.send (Channel.ofCapacity capacity)).Carries earlier := by
    have hsent := (Channel.carries_ofCapacity capacity).foldl_send earlier
    rwa [List.nil_append] at hsent
  have hnext : (start earlier capacity config).receiver.next = earlier.length := hcarries.sent_eq
  exact ⟨hcarries, Channel.capacity_foldl_send _ _, Nat.le_of_eq hnext.symm, Nat.le_of_eq hnext⟩

theorem Listens.publish (h : Listens capacity before s all) (change : Change) :
    Listens capacity before { s with changes := s.changes.send change } (all ++ [change]) where
  carries := h.carries.send change
  capacity_eq := (Channel.capacity_send _ _).trans h.capacity_eq
  started := h.started
  position := by
    rw [List.length_append]
    exact Nat.le_add_right_of_le h.position

-- What a receiving watcher gets, and what it has before it then.
theorem Listens.receive (h : Listens capacity before s all) {source : Source}
    (hm : s.move? (.receive source) = some t) :
    ∃ delivery, Delivery.first? s.changes.capacity (all.drop s.receiver.next) = some delivery ∧
      s.changes.receive? s.receiver = some (delivery, t.receiver) ∧
      t.config = Watcher.apply source s.config delivery ∧ Listens capacity before t all := by
  rw [State.move?, h.carries.receive?_eq h.position, Option.map_map] at hm
  obtain ⟨delivery, hfirst, rfl⟩ := Option.map_eq_some_iff.mp hm
  have hreceive := h.carries.receive?_eq h.position
  rw [hfirst, Option.map_some] at hreceive
  have hsize := Delivery.size_le_of_first? hfirst
  have hstarted := h.started
  have hposition := h.position
  rw [List.length_drop] at hsize
  refine ⟨delivery, hfirst, hreceive, rfl, h.carries, h.capacity_eq, ?_, ?_⟩
  · change before ≤ s.receiver.next + delivery.size
    omega
  · change s.receiver.next + delivery.size ≤ all.length
    omega

-- The watcher learns of missed changes only where more of them are unread than the channel keeps.
theorem Listens.capacity_lt_unread (h : Listens capacity before s all) {m : Move}
    (hmissed : (reread? (s, m)).isSome = true) : capacity < s.unread := by
  cases m with
  | publish => cases hmissed
  | receive source =>
    have hreceive := h.carries.receive?_eq h.position
    have hroom : capacity ≤ s.changes.capacity := by
      rw [h.capacity_eq]
      exact Channel.le_capacity_ofCapacity capacity
    rw [State.unread, h.carries.sent_eq]
    unfold Delivery.first? at hreceive
    by_cases hlag : s.changes.capacity < (all.drop s.receiver.next).length
    · rw [List.length_drop] at hlag
      omega
    · rw [if_neg hlag] at hreceive
      rw [reread?, hreceive] at hmissed
      cases hhead : (all.drop s.receiver.next).head? with
      | none => rw [hhead] at hmissed; cases hmissed
      | some change => rw [hhead] at hmissed; cases hmissed

/-! ## One parameter along a run -/

/-- The parameter of a key that no published change affects. -/
structure Kept (capacity : Nat) (key : Key) (old : key.Parameter) (before : Nat)
    (trace : List (State × Move)) (s : State) (all : List Change) : Prop where
  listens : Listens capacity before s all
  published : ∀ change ∈ all.drop before, Publishes trace change
  parameter : s.config.parameter key = readAgain key (rereads trace) old
  lag : ∀ turn ∈ trace, (reread? turn).isSome = true → capacity < turn.1.unread

variable {key : Key} {old : key.Parameter} {trace : List (State × Move)}

theorem Publishes.later {change : Change} (h : Publishes trace change) (turn : State × Move) :
    Publishes (trace ++ [turn]) change := by
  unfold Publishes
  rw [List.map_append]
  exact List.mem_append_left _ h

theorem Kept.move (h : Kept capacity key old before trace s all) {m : Move} (hm : s.move? m = some t)
    (hkey : ∀ change, Publishes (trace ++ [(s, m)]) change → change.affects key.name = false) :
    ∃ all, Kept capacity key old before (trace ++ [(s, m)]) t all := by
  have hlag : ∀ turn ∈ trace ++ [(s, m)], (reread? turn).isSome = true → capacity < turn.1.unread := by
    intro turn hturn
    rcases List.mem_append.mp hturn with hturn | hturn
    · exact h.lag turn hturn
    · rw [List.mem_singleton.mp hturn]
      exact h.listens.capacity_lt_unread
  have hrereads : rereads (trace ++ [(s, m)]) = rereads trace ++ (reread? (s, m)).toList := by
    unfold rereads
    rw [List.filterMap_append, List.filterMap_cons, List.filterMap_nil]
    cases reread? (s, m) <;> rfl
  cases m with
  | publish change =>
    cases hm
    refine ⟨all ++ [change], h.listens.publish change, ?_, ?_, hlag⟩
    · intro other hother
      rw [List.drop_append_of_le_length (Nat.le_trans h.listens.started h.listens.position)] at hother
      rcases List.mem_append.mp hother with hother | hother
      · exact (h.published other hother).later _
      · rw [List.mem_singleton.mp hother, Publishes, List.map_append]
        exact List.mem_append_right _ (List.mem_singleton_self _)
    · rw [hrereads, reread?, Option.toList_none, List.append_nil]
      exact h.parameter
  | receive source =>
    obtain ⟨delivery, hfirst, hreceive, hconfig, hlistens⟩ := h.listens.receive hm
    refine ⟨all, hlistens, fun change hchange => (h.published change hchange).later _, ?_, hlag⟩
    rw [hrereads, readAgain_append, ← h.parameter, hconfig, Watcher.apply, Config.parameter_refresh]
    cases delivery with
    | missed count =>
      -- All settings are read, that of this key as well.
      rw [Watcher.change, if_pos (Change.affects_everything key), reread?, hreceive]
      rfl
    | message change =>
      -- The change has been published since the watcher started, so it does not affect the key.
      have hmem : change ∈ all.drop before := by
        have hcovers := Delivery.covers_of_first? hfirst
        have hfront : change ∈ (all.drop s.receiver.next).take (Delivery.message change).size := by
          rw [hcovers]
          exact List.mem_singleton_self change
        have hrest : all.drop s.receiver.next <:+ all.drop before :=
          List.drop_suffix_drop_left all h.listens.started
        exact hrest.mem (List.mem_of_mem_take hfront)
      have hskip := hkey change ((h.published change hmem).later _)
      rw [Watcher.change, if_neg (by rw [hskip]; exact Bool.false_ne_true), reread?, hreceive]
      rfl

theorem Run.kept {earlier : List Change} {config : Config}
    (h : Run (start earlier capacity config) trace s)
    (hkey : ∀ change, Publishes trace change → change.affects key.name = false) :
    ∃ all, Kept capacity key (config.parameter key) earlier.length trace s all := by
  induction h with
  | nil =>
    refine ⟨earlier, listens_start earlier capacity config, ?_, rfl, fun _ hturn => by cases hturn⟩
    intro change hchange
    rw [List.drop_length] at hchange
    cases hchange
  | snoc _ hm ih =>
    obtain ⟨all, hkept⟩ := ih fun change hchange => hkey change (hchange.later _)
    exact hkept.move hm hkey

/-! ## Every run -/

/-- A parameter whose key is affected by no change that is published while the watcher listens is what it was
at the start, as long as the watcher never has more changes before it than the channel is to keep.  In any case
it changes only where the watcher learns of missed changes, and then to what its setting says. -/
theorem unaffected_parameter_kept {earlier : List Change} {config : Config}
    (h : Run (start earlier capacity config) trace s)
    (hkey : ∀ change, Publishes trace change → change.affects key.name = false) :
    ((∀ turn ∈ trace, turn.1.unread ≤ capacity) →
      s.config.parameter key = config.parameter key) ∧
    s.config.parameter key = readAgain key (rereads trace) (config.parameter key) ∧
    ∀ turn ∈ trace, (reread? turn).isSome = true → capacity < turn.1.unread := by
  obtain ⟨all, hkept⟩ := h.kept hkey
  refine ⟨fun hroom => ?_, hkept.parameter, hkept.lag⟩
  have hnone : rereads trace = [] := by
    refine List.filterMap_eq_nil_iff.mpr fun turn hturn => ?_
    by_contra hread
    have hlag := hkept.lag turn hturn (Option.isSome_iff_ne_none.mpr hread)
    have hfits := hroom turn hturn
    omega
  rw [hkept.parameter, hnone]
  rfl

/-- A configuration with a model that was chosen for the session. -/
def overridden : Config := Config.default.setModel "local/model"

/-- Settings that name another model. -/
def otherModel : Source := fun key => if key = Key.model.name then some (.string "gpt-4") else none

/-- Changes of other keys, of which the watcher has two before it at most. -/
def apace : List Move :=
  [.publish (.ofList ["ai.temperature"]), .receive otherModel, .publish (.ofList ["ai.maxTokens"]),
   .publish (.ofList ["ai.endpoint"]), .receive otherModel, .receive otherModel]

theorem unaffected_parameter_kept_apace :
    ∃ trace s, Run (start [.everything] 2 overridden) trace s ∧ trace.map Prod.snd = apace ∧
      (∀ change, Publishes trace change → change.affects Key.model.name = false) ∧
      (∀ turn ∈ trace, turn.1.unread ≤ 2) ∧ s.Idle ∧ s.config.model = "local/model" := by
  obtain ⟨trace, s, hrun, hmoves, hroom, hidle⟩ :=
    Run.exists_of_run? (start [.everything] 2 overridden) apace
      (fun trace s => (∀ turn ∈ trace, turn.1.unread ≤ 2) ∧ s.Idle) (by decide +kernel)
  have hkey : ∀ change, Publishes trace change → change.affects Key.model.name = false := by
    intro change hchange
    rw [Publishes, hmoves] at hchange
    simp only [apace, List.mem_cons, Move.publish.injEq, reduceCtorEq, List.not_mem_nil, or_false,
      false_or] at hchange
    rcases hchange with rfl | rfl | rfl <;> decide
  have hkept : s.config.parameter .model = overridden.parameter .model :=
    (unaffected_parameter_kept hrun hkey).1 hroom
  exact ⟨trace, s, hrun, hmoves, hkey, hroom, hidle, hkept⟩

/-- A watcher that has fallen behind reads settings that no change affects. -/
theorem lagging_watcher_reads_unaffected :
    ¬ ∀ (capacity : Nat) (config : Config) (trace : List (State × Move)) (s : State) (key : Key),
      Run (start [] capacity config) trace s → s.Idle →
        (∀ change, Publishes trace change → change.affects key.name = false) →
          s.config.parameter key = config.parameter key := by
  intro h
  obtain ⟨trace, s, hrun, hmoves, hidle, hmodel⟩ :=
    Run.exists_of_run? (start [] 1 Config.default)
      [.publish (.ofList ["ai.temperature"]), .publish (.ofList ["ai.maxTokens"]),
       .receive fun key => if key = Key.model.name then some (.string "local/model") else none,
       .receive fun key => if key = Key.model.name then some (.string "local/model") else none]
      (fun _ s => s.Idle ∧ s.config.model = "local/model") (by decide +kernel)
  have hkey : ∀ change, Publishes trace change → change.affects Key.model.name = false := by
    intro change hchange
    rw [Publishes, hmoves] at hchange
    simp only [List.mem_cons, Move.publish.injEq, reduceCtorEq, List.not_mem_nil, or_false] at hchange
    rcases hchange with rfl | rfl <;> decide
  have hkept : s.config.model = Config.default.model := h 1 Config.default trace s .model hrun hidle hkey
  rw [hmodel] at hkept
  exact absurd hkept (by decide)

end ChatAssistant.Settings.Listening
