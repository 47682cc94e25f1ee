import ChatAssistant.Proofs.Settings.SignedZero
import ChatAssistant.Proofs.Settings.Watching
import Mathlib.Data.List.Perm.Basic

/-!
# No change of settings is lost

Whatever the order of the moves, a key whose parameter is not up to date has a change that affects it on
its way to the watcher.  So the configuration is up to date whenever no change is on its way.
-/

namespace ChatAssistant.Settings.Watching

open ChatAssistant.Number

/-- A change that affects a key is among these. -/
def Awaits (key : Key) (changes : List Change) : Prop :=
  ∃ change ∈ changes, change.affects key.name = true

/-- The parameter of a key is what reading gives, from the value in the store or from one that `R` relates
to it. -/
def Fresh (R : Key → Option Json.Value → Option Json.Value → Prop) (s : State) (key : Key) : Prop :=
  ∃ value, R key value (s.store.get? key.name) ∧
    Config.read (fun _ => value) key (s.config.parameter key) = s.config.parameter key

/-- What every move keeps. -/
structure Tracked (R : Key → Option Json.Value → Option Json.Value → Prop) (s : State)
    (published : List Change) : Prop where
  carries : s.changes.Carries published
  position : s.receiver.next ≤ published.length
  keys : ∀ key : Key, Fresh R s key ∨ Awaits key s.unpublished ∨
    Awaits key (published.drop s.receiver.next)
  ended : s.watcherEnded = true → s.senderDropped = true ∧ s.receiver.next = published.length

-- Where the watcher does not read a key, the change that the key awaits is still to come.
theorem awaits_drop {capacity : Nat} {rest : List Change} {d : Delivery Change} {key : Key}
    (hfirst : Delivery.first? capacity rest = some d) (h : Awaits key rest)
    (hskip : (Watcher.change d).affects key.name = false) : Awaits key (rest.drop d.size) := by
  cases d with
  | missed count =>
    rw [Watcher.change, Change.affects_everything] at hskip
    cases hskip
  | message received =>
    have hcovers := Delivery.covers_of_first? hfirst
    obtain ⟨change, hmem, haffects⟩ := h
    rw [← List.take_append_drop (Delivery.size (.message received)) rest, hcovers,
      List.mem_append, List.mem_singleton] at hmem
    rcases hmem with rfl | hmem
    · rw [Watcher.change, haffects] at hskip
      cases hskip
    · exact ⟨change, hmem, haffects⟩

variable {R : Key → Option Json.Value → Option Json.Value → Prop} {s t : State}
  {published : List Change}

theorem tracked_start (hR : ∀ key, Equivalence (R key)) (store : Store) (capacity : Nat) :
    Tracked R (start store capacity) [] where
  carries := Channel.carries_ofCapacity capacity
  position := Nat.le_refl 0
  keys := by
    intro key
    refine .inl ⟨store.get? key.name, (hR key).refl _, ?_⟩
    rw [start, Config.ofSource, Config.parameter_refresh_everything]
    change Config.read (fun _ => store.source key.name) key _ = _
    rw [Config.read_value]
    exact Config.read_read store.source key _
  ended := by
    intro h
    cases h

-- A new store, where each key has a related value or is affected by the change that is returned.
theorem Tracked.changeStore (hR : ∀ key, Equivalence (R key)) (h : Tracked R s published)
    {store : Store} {change : Change}
    (hstore : ∀ key : Key, R key (s.store.get? key.name) (store.get? key.name) ∨
      change.affects key.name = true) :
    Tracked R { s with store, unpublished := s.unpublished ++ [change] } published where
  carries := h.carries
  position := h.position
  keys := by
    intro key
    rcases hstore key with hrelated | haffects
    · rcases h.keys key with ⟨value, hvalue, hread⟩ | ⟨other, hmem, haffects⟩ | hawaits
      · exact .inl ⟨value, (hR key).trans hvalue hrelated, hread⟩
      · exact .inr (.inl ⟨other, List.mem_append_left _ hmem, haffects⟩)
      · exact .inr (.inr hawaits)
    · exact .inr (.inl ⟨change, List.mem_append_right _ (List.mem_singleton_self change), haffects⟩)
  ended := h.ended

theorem Tracked.publish (h : Tracked R s published) {index : Nat} {change : Change}
    (hindex : s.unpublished[index]? = some change) (hopen : s.senderDropped = false) :
    Tracked R
      { s with
        unpublished := s.unpublished.eraseIdx index
        changes := s.changes.send change }
      (published ++ [change]) where
  carries := h.carries.send change
  position := by
    rw [List.length_append]
    exact Nat.le_add_right_of_le h.position
  keys := by
    intro key
    rw [List.drop_append_of_le_length h.position]
    rcases h.keys key with hfresh | ⟨other, hmem, haffects⟩ | ⟨other, hmem, haffects⟩
    · exact .inl hfresh
    · -- The change that the key awaits is the published one, or stays where it is.
      obtain ⟨hlt, hget⟩ := List.getElem?_eq_some_iff.mp hindex
      have hsplit := (List.getElem_cons_eraseIdx_perm hlt).mem_iff.mpr hmem
      rw [hget, List.mem_cons] at hsplit
      rcases hsplit with rfl | hmem
      · exact .inr (.inr ⟨other, List.mem_append_right _ (List.mem_singleton_self other), haffects⟩)
      · exact .inr (.inl ⟨other, hmem, haffects⟩)
    · exact .inr (.inr ⟨other, List.mem_append_left _ hmem, haffects⟩)
  ended := by
    intro hended
    rw [(h.ended hended).1] at hopen
    cases hopen

theorem Tracked.receive (hR : ∀ key, Equivalence (R key)) (h : Tracked R s published)
    (hm : s.receive? = some t) : Tracked R t published := by
  obtain ⟨hrunning, ⟨d, hfirst, rfl⟩ | ⟨hend, hdropped, rfl⟩⟩ :=
    State.receive?_cases h.carries h.position hm
  · have hsize := Delivery.size_le_of_first? hfirst
    rw [List.length_drop] at hsize
    have hposition := h.position
    refine ⟨h.carries, by dsimp only; omega, ?_, fun hended => ?_⟩
    · intro key
      dsimp only
      rw [← List.drop_drop]
      -- A key that is read is fresh, whatever lies ahead; nothing has changed for the others.
      by_cases haffects : (Watcher.change d).affects key.name = true
      · refine .inl ⟨s.store.get? key.name, (hR key).refl _, ?_⟩
        rw [Watcher.apply, Config.parameter_refresh, if_pos haffects]
        change Config.read (fun _ => s.store.source key.name) key _ = _
        rw [Config.read_value]
        exact Config.read_read s.store.source key _
      · have hkept : (Watcher.apply s.store.source s.config d).parameter key =
            s.config.parameter key := by
          rw [Watcher.apply, Config.parameter_refresh, if_neg haffects]
        rcases h.keys key with ⟨value, hvalue, hread⟩ | hawaits | hawaits
        · exact .inl ⟨value, hvalue, by dsimp only; rw [hkept, hread]⟩
        · exact .inr (.inl hawaits)
        · exact .inr (.inr (awaits_drop hfirst hawaits (Bool.eq_false_iff.mpr haffects)))
    · rw [hrunning] at hended
      cases hended
  · exact ⟨h.carries, h.position, h.keys, fun _ => ⟨hdropped, hend⟩⟩

/-! ## Runs -/

/-- Where the move reads the file again, values that the store takes for equal are related. -/
def Respects (R : Key → Option Json.Value → Option Json.Value → Prop) (s : State) (m : Move) : Prop :=
  ∀ files fresh change, m = .reload files → s.store.reload files = .ok (fresh, change) →
    ∀ key : Key, Store.differ (s.store.get? key.name) (fresh.get? key.name) = false →
      R key (s.store.get? key.name) (fresh.get? key.name)

theorem Tracked.move (hR : ∀ key, Equivalence (R key)) (h : Tracked R s published) {m : Move}
    (hm : s.move? m = some t) (hrespects : Respects R s m) : ∃ published, Tracked R t published := by
  obtain ⟨store, change, hstore, rfl⟩ | ⟨-, rfl⟩ | ⟨index, change, -, hopen, hindex, rfl⟩ |
    ⟨-, -, rfl⟩ | ⟨-, hreceive⟩ := State.move?_cases hm
  · refine ⟨published, h.changeStore hR fun key => ?_⟩
    rcases hstore with ⟨changed, value, -, hset⟩ | ⟨files, hreload, hfresh⟩
    · have hkept := Store.get?_set s.store changed value key.name
      rw [hset] at hkept
      exact hkept.imp_left fun hkept => by rw [hkept]; exact (hR key).refl _
    · exact (Store.get?_reloadOn hfresh key.name).imp_left
        (hrespects files store change hreload hfresh key)
  · exact ⟨published, h⟩
  · exact ⟨_, h.publish hindex hopen⟩
  · exact ⟨published, h.carries, h.position, h.keys, fun hended => ⟨rfl, (h.ended hended).2⟩⟩
  · exact ⟨published, h.receive hR hreceive⟩

theorem Tracked.run (hR : ∀ key, Equivalence (R key)) (h : Tracked R s published)
    {trace : List (State × Move)} (hrun : Run s trace t)
    (hrespects : ∀ step ∈ trace, Respects R step.1 step.2) : ∃ published, Tracked R t published := by
  induction hrun with
  | nil => exact ⟨published, h⟩
  | snoc hrun hm ih =>
    obtain ⟨published, hbefore⟩ := ih fun step hstep =>
      hrespects step (List.mem_append_left _ hstep)
    exact hbefore.move hR hm
      (hrespects _ (List.mem_append_right _ (List.mem_singleton_self _)))

theorem Tracked.idle_iff (h : Tracked R s published) :
    s.Idle ↔ s.receiver.next = published.length := by
  unfold State.Idle
  rw [Option.isNone_iff_eq_none, h.carries.receive?_eq h.position, Option.map_eq_none_iff,
    Delivery.first?_eq_none, List.drop_eq_nil_iff]
  have hposition := h.position
  omega

-- Where nothing is on its way, every key is fresh.
theorem Tracked.fresh (h : Tracked R s published) (hpublished : s.AllPublished) (hidle : s.Idle)
    (key : Key) : Fresh R s key := by
  have hrest : published.drop s.receiver.next = [] := by
    rw [h.idle_iff.mp hidle, List.drop_length]
  rcases h.keys key with hfresh | ⟨change, hmem, haffects⟩ | ⟨change, hmem, -⟩
  · exact hfresh
  · rw [Change.not_affects_of_isEmpty (hpublished change hmem)] at haffects
    cases haffects
  · simp [hrest] at hmem

end ChatAssistant.Settings.Watching
