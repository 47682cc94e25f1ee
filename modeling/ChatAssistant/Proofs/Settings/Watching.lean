import ChatAssistant.Proofs.Channel
import ChatAssistant.Proofs.Config.Parameter
import ChatAssistant.Settings.Watcher

/-!
# A store and a watcher at work

The store is changed, its changes are published, and a watcher receives them, each at a time of its
own: whatever the order, these are the moves of one machine.
-/

namespace ChatAssistant.Settings

namespace Watching

structure State where
  store : Store
  /-- The changes that the store returned and that have not been published yet. -/
  unpublished : List Change
  changes : Channel Change
  receiver : Receiver
  /-- The configuration that the watcher keeps. -/
  config : Config
  senderDropped : Bool
  watcherEnded : Bool

inductive Move
  | set (key : String) (value : Json.Value)
  /-- The store reads its file, which may have changed in any way. -/
  | reload (files : FileTree)
  /-- One of the changes that the store returned is published. -/
  | publish (index : Nat)
  | dropSender
  /-- The watcher receives once, or ends where nothing will come any more. -/
  | receive

/-- A watcher that listens from the start, with the configuration that the store gives. -/
def start (store : Store) (capacity : Nat) : State where
  store := store
  unpublished := []
  changes := Channel.ofCapacity capacity
  receiver := (Channel.ofCapacity capacity : Channel Change).subscribe
  config := Config.ofSource store.source
  senderDropped := false
  watcherEnded := false

namespace State

/-- The watcher's move. -/
def receive? (s : State) : Option State :=
  if s.watcherEnded then none
  else
    match s.changes.receive? s.receiver with
    | some (delivery, receiver) =>
      some { s with receiver, config := Watcher.apply s.store.source s.config delivery }
    | none => if s.senderDropped then some { s with watcherEnded := true } else none

/-- The state after a move, if the move can be made. -/
def move? (s : State) : Move → Option State
  | .set key value =>
    let (store, change) := s.store.set key value
    some { s with store, unpublished := s.unpublished ++ [change] }
  | .reload files =>
    match s.store.reload files with
    | .ok (store, change) => some { s with store, unpublished := s.unpublished ++ [change] }
    | .error _ => some s
  | .publish index =>
    if s.senderDropped then none
    else
      s.unpublished[index]?.map fun change =>
        { s with
          unpublished := s.unpublished.eraseIdx index
          changes := s.changes.send change }
  | .dropSender => if s.senderDropped then none else some { s with senderDropped := true }
  | .receive => s.receive?

/-- The trace of moves that are made in turn and the state after them, if all can be made. -/
def run? (s : State) : List Move → Option (List (State × Move) × State)
  | [] => some ([], s)
  | m :: moves =>
    match s.move? m with
    | none => none
    | some t => (t.run? moves).map fun (trace, u) => ((s, m) :: trace, u)

/-- Every change that is not empty has been published. -/
def AllPublished (s : State) : Prop := ∀ change ∈ s.unpublished, change.isEmpty = true

/-- The watcher has nothing left to receive. -/
def Idle (s : State) : Prop := (s.changes.receive? s.receiver).isNone = true

instance (s : State) : Decidable s.AllPublished :=
  inferInstanceAs (Decidable (∀ change ∈ s.unpublished, change.isEmpty = true))

instance (s : State) : Decidable s.Idle := inferInstanceAs (Decidable (_ = true))

end State

namespace State

variable {s t : State} {m : Move}

-- What a move can do.
theorem move?_cases (h : s.move? m = some t) :
    (∃ store change,
      ((∃ key value, m = .set key value ∧ s.store.set key value = (store, change)) ∨
        ∃ files, m = .reload files ∧ s.store.reload files = .ok (store, change)) ∧
      t = { s with store, unpublished := s.unpublished ++ [change] }) ∨
    ((∃ files, m = .reload files) ∧ t = s) ∨
    (∃ index change, m = .publish index ∧ s.senderDropped = false ∧
      s.unpublished[index]? = some change ∧
      t = { s with
        unpublished := s.unpublished.eraseIdx index
        changes := s.changes.send change }) ∨
    (m = .dropSender ∧ s.senderDropped = false ∧ t = { s with senderDropped := true }) ∨
    (m = .receive ∧ s.receive? = some t) := by
  cases m with
  | set key value =>
    rw [move?, Option.some.injEq] at h
    exact .inl ⟨_, _, .inl ⟨key, value, rfl, rfl⟩, h.symm⟩
  | reload files =>
    simp only [move?] at h
    split at h
    · next store change hreload =>
      exact .inl ⟨store, change, .inr ⟨files, rfl, hreload⟩, (Option.some.inj h).symm⟩
    · exact .inr (.inl ⟨⟨files, rfl⟩, (Option.some.inj h).symm⟩)
  | publish index =>
    simp only [move?] at h
    split at h
    · cases h
    · next hopen =>
      obtain ⟨change, hindex, ht⟩ := Option.map_eq_some_iff.mp h
      exact .inr (.inr (.inl
        ⟨index, change, rfl, Bool.eq_false_iff.mpr hopen, hindex, ht.symm⟩))
  | dropSender =>
    simp only [move?] at h
    split at h
    · cases h
    · next hopen =>
      exact .inr (.inr (.inr (.inl
        ⟨rfl, Bool.eq_false_iff.mpr hopen, (Option.some.inj h).symm⟩)))
  | receive => exact .inr (.inr (.inr (.inr ⟨rfl, h⟩)))

-- What the watcher's move can do, where these changes have been published.
theorem receive?_cases {published : List Change} (hcarries : s.changes.Carries published)
    (hposition : s.receiver.next ≤ published.length) (h : s.receive? = some t) :
    s.watcherEnded = false ∧
      ((∃ d, Delivery.first? s.changes.capacity (published.drop s.receiver.next) = some d ∧
          t = { s with
            receiver := ⟨s.receiver.next + d.size⟩
            config := Watcher.apply s.store.source s.config d }) ∨
        (s.receiver.next = published.length ∧ s.senderDropped = true ∧
          t = { s with watcherEnded := true })) := by
  unfold receive? at h
  split at h
  · cases h
  · next hrunning =>
    refine ⟨Bool.eq_false_iff.mpr hrunning, ?_⟩
    rw [hcarries.receive?_eq hposition] at h
    cases hfirst : Delivery.first? s.changes.capacity (published.drop s.receiver.next) with
    | some d =>
      rw [hfirst] at h
      exact .inl ⟨d, rfl, (Option.some.inj h).symm⟩
    | none =>
      have hrest := List.drop_eq_nil_iff.mp (Delivery.first?_eq_none.mp hfirst)
      rw [hfirst] at h
      dsimp only [Option.map_none] at h
      split at h
      · next hdropped =>
        exact .inr ⟨Nat.le_antisymm hposition hrest, hdropped, (Option.some.inj h).symm⟩
      · cases h

end State

/-- The moves of a run, each with the state in which it was made. -/
inductive Run (s : State) : List (State × Move) → State → Prop
  | nil : Run s [] s
  | snoc {trace : List (State × Move)} {t u : State} {m : Move} :
      Run s trace t → t.move? m = some u → Run s (trace ++ [(t, m)]) u

namespace Run

theorem cons {s t u : State} {m : Move} {trace : List (State × Move)} (hm : s.move? m = some t)
    (h : Run t trace u) : Run s ((s, m) :: trace) u := by
  induction h with
  | nil => exact snoc nil hm
  | snoc _ hlast ih => exact snoc ih hlast

theorem of_run? {s t : State} {moves : List Move} {trace : List (State × Move)}
    (h : s.run? moves = some (trace, t)) : Run s trace t ∧ trace.map Prod.snd = moves := by
  induction moves generalizing s trace with
  | nil =>
    cases h
    exact ⟨nil, rfl⟩
  | cons m moves ih =>
    unfold State.run? at h
    split at h
    · cases h
    · next u hm =>
      obtain ⟨⟨later, _⟩, hlater, heq⟩ := Option.map_eq_some_iff.mp h
      cases heq
      obtain ⟨hrun, hmoves⟩ := ih hlater
      exact ⟨hrun.cons hm, by rw [List.map_cons, hmoves]⟩

theorem exists_of_run? (s : State) (moves : List Move) (P : State → Prop) [DecidablePred P]
    (h : (s.run? moves).any (fun r => P r.2) = true) :
    ∃ trace t, Run s trace t ∧ trace.map Prod.snd = moves ∧ P t := by
  obtain ⟨⟨trace, t⟩, hrun, ht⟩ := (Option.any_eq_true _ _).mp h
  exact ⟨trace, t, (of_run? hrun).1, (of_run? hrun).2, of_decide_eq_true ht⟩

end Run

end Watching

/-! ## What the store reports -/

theorem Change.not_affects_of_isEmpty {change : Change} (h : change.isEmpty = true) (key : String) :
    change.affects key = false := by
  have hkeys : change.keys = [] := List.isEmpty_iff.mp h
  rw [Change.affects, hkeys, List.any_nil]

namespace Store

theorem mem_keys_of_get?_ne_none {α : Type} {key : String} {t : Table α}
    (h : Table.get? key t ≠ none) : key ∈ Table.keys t := by
  induction t with
  | nil => exact absurd rfl h
  | cons entry rest ih =>
    obtain ⟨k, v⟩ := entry
    by_cases hk : k = key
    · subst hk
      exact List.mem_cons_self
    · exact List.mem_cons_of_mem k (ih (by rwa [Table.get?, if_neg hk] at h))

-- Setting a value leaves the other keys alone.
theorem get?_set_of_ne (store : Store) {key other : String} (h : other ≠ key)
    (value : Json.Value) : (store.set key value).1.get? other = store.get? other := by
  unfold set
  split
  · exact Table.get?_insert_of_ne h value store.values
  · rfl

-- After a value has been set, a key reads as before, or the change affects it.
theorem get?_set (store : Store) (key : String) (value : Json.Value) (other : String) :
    (store.set key value).1.get? other = store.get? other ∨
      (store.set key value).2.affects other = true := by
  unfold set
  split
  · by_cases hother : other = key
    · subst hother
      exact .inr (Change.affects_ofList_of_mem (List.mem_singleton_self other))
    · exact .inl (Table.get?_insert_of_ne hother value store.values)
  · exact .inl rfl

theorem mem_changedKeys_iff {old new : Values} {key : String} :
    key ∈ (changedKeys old new).keys ↔
      differ (Table.get? key old) (Table.get? key new) = true := by
  rw [changedKeys, Change.ofList, KeySet.mem_ofList, List.mem_filter, List.mem_append,
    and_iff_right_iff_imp]
  intro hdiffer
  by_cases hold : Table.get? key old = none
  · -- A key without an old value has a new one, or the two would not differ.
    refine .inr (mem_keys_of_get?_ne_none fun hnew => ?_)
    rw [hold, hnew] at hdiffer
    cases hdiffer
  · exact .inl (mem_keys_of_get?_ne_none hold)

-- After the file has been read again, the values under a key are equal, or the change affects it.
theorem get?_reloadOn {disk : Disk} {store fresh : Store} {files : FileTree} {change : Change}
    (h : store.reloadOn disk files = .ok (fresh, change)) (key : String) :
    differ (store.get? key) (fresh.get? key) = false ∨ change.affects key = true := by
  obtain ⟨values, -, rfl, rfl⟩ := reloadOn_eq_ok_iff.mp h
  by_cases hdiffer : differ (Table.get? key store.values) (Table.get? key values) = true
  · exact .inr (Change.affects_of_mem (mem_changedKeys_iff.mpr hdiffer))
  · exact .inl (Bool.eq_false_iff.mpr hdiffer)

end Store

end ChatAssistant.Settings
