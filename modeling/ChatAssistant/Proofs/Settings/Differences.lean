import ChatAssistant.Proofs.Command.SettingsFile
import ChatAssistant.Proofs.Settings.SignedZero
import ChatAssistant.Proofs.Table

/-!
# What the store says that it changed

Each operation on the store names the keys at which the values before and after it are not the same.  What
no operation named along a run is at its end what it was at the start.
-/

namespace ChatAssistant

/-! ## Same values -/

-- The two zeros are the only values that are the same without being equal.
theorem Number.Finite.same_trans {f : Number.Format} {x y z : Number.Finite f} (hxy : x.same y = true)
    (hyz : y.same z = true) : x.same z = true := by
  rcases Settings.eq_or_isZero_of_same hxy with rfl | ⟨hx, hy⟩
  · exact hyz
  · rcases Settings.eq_or_isZero_of_same hyz with rfl | ⟨-, hz⟩
    · exact hxy
    · rw [same, if_pos hx, hz]

namespace Json

theorem Number.same_trans {m n k : Number} (hmn : m.same n = true) (hnk : n.same k = true) :
    m.same k = true := by
  match m, n, k with
  | .int a, .int b, .int c =>
    rw [same, beq_iff_eq] at hmn hnk ⊢
    exact hmn.trans hnk
  | .float x, .float y, .float z => exact x.same_trans hmn hnk

mutual

theorem Value.same_trans {u v w : Value} (huv : u.same v = true) (hvw : v.same w = true) :
    u.same w = true := by
  match u, v, w with
  | .null, .null, .null => rfl
  | .bool a, .bool b, .bool c =>
    rw [same, beq_iff_eq] at huv hvw ⊢
    exact huv.trans hvw
  | .number m, .number n, .number k =>
    rw [same] at huv hvw ⊢
    exact Number.same_trans huv hvw
  | .string a, .string b, .string c =>
    rw [same, beq_iff_eq] at huv hvw ⊢
    exact huv.trans hvw
  | .array as, .array bs, .array cs =>
    rw [same] at huv hvw ⊢
    exact sameItems_trans huv hvw
  | .object as, .object bs, .object cs =>
    rw [same] at huv hvw ⊢
    exact sameMembers_trans huv hvw

theorem Value.sameItems_trans {as bs cs : List Value} (hab : sameItems as bs = true)
    (hbc : sameItems bs cs = true) : sameItems as cs = true := by
  match as, bs, cs with
  | [], [], [] => rfl
  | a :: as, b :: bs, c :: cs =>
    rw [sameItems, Bool.and_eq_true] at hab hbc ⊢
    exact ⟨same_trans hab.1 hbc.1, sameItems_trans hab.2 hbc.2⟩

theorem Value.sameMembers_trans {as bs cs : List (String × Value)} (hab : sameMembers as bs = true)
    (hbc : sameMembers bs cs = true) : sameMembers as cs = true := by
  match as, bs, cs with
  | [], [], [] => rfl
  | (k, a) :: as, (l, b) :: bs, (m, c) :: cs =>
    rw [sameMembers, Bool.and_eq_true, Bool.and_eq_true, beq_iff_eq] at hab hbc ⊢
    exact ⟨⟨hab.1.1.trans hbc.1.1, same_trans hab.1.2 hbc.1.2⟩, sameMembers_trans hab.2 hbc.2⟩

end

end Json

namespace Settings

/-- Values under a key, before and after, that the store takes for equal: both are absent, or both are
there and equal. -/
def SameValue (v w : Option Json.Value) : Prop := Option.Rel (fun a b => a.same b = true) v w

theorem SameValue.refl (v : Option Json.Value) : SameValue v v := by
  cases v with
  | none => exact .none
  | some v => exact .some v.same_self

theorem SameValue.trans {u v w : Option Json.Value} (huv : SameValue u v) (hvw : SameValue v w) :
    SameValue u w := by
  cases huv with
  | none => exact hvw
  | some hab =>
    cases hvw with
    | some hbc => exact .some (Json.Value.same_trans hab hbc)

theorem differ_iff {v w : Option Json.Value} : Store.differ v w = true ↔ ¬ SameValue v w := by
  cases v with
  | none =>
    cases w with
    | none => exact iff_of_false (by decide) (not_not_intro .none)
    | some b => exact iff_of_true rfl nofun
  | some a =>
    cases w with
    | none => exact iff_of_true rfl nofun
    | some b =>
      rw [Store.differ, Bool.not_eq_true', ← Bool.not_eq_true, not_iff_not]
      exact ⟨fun h => .some h, fun h => by cases h with | some h => exact h⟩

/-! ## One operation -/

inductive Operation
  | set (key : String) (value : Json.Value)
  /-- The file is read again, whatever is in it now and however it is read. -/
  | reload (disk : Disk) (files : FileTree)

/-- The store after an operation, and the change that it returns. -/
def Store.perform (store : Store) : Operation → Store × Except Failure Change
  | .set key value =>
    let (after, change) := store.set key value
    (after, .ok change)
  | .reload disk files =>
    match store.reloadOn disk files with
    | .ok (after, change) => (after, .ok change)
    | .error failure => (store, .error failure)

/-- The keys of a change are those whose values differ, each once. -/
structure Change.IsDifference (change : Change) (before after : Store) : Prop where
  nodup : change.keys.Nodup
  mem_iff (key : String) : key ∈ change.keys ↔ ¬ SameValue (before.get? key) (after.get? key)

/-- What an operation may lead to. -/
inductive LeadsTo (store : Store) : Operation → Store × Except Failure Change → Prop
  | set {key : String} {value : Json.Value} {after : Store} {change : Change} :
      change.IsDifference store after → SameValue (after.get? key) (some value) →
      (∀ other, other ≠ key → after.get? other = store.get? other) →
        LeadsTo store (.set key value) (after, .ok change)
  | reload {disk : Disk} {files : FileTree} {values : Values} {after : Store} {change : Change} :
      disk.Holds files store.path values → change.IsDifference store after →
      (∀ key, after.get? key = Table.get? key values) →
        LeadsTo store (.reload disk files) (after, .ok change)
  | failed {disk : Disk} {files : FileTree} {failure : Failure} :
      (∀ values, ¬ disk.Holds files store.path values) →
        LeadsTo store (.reload disk files) (store, .error failure)

theorem isDifference_set (store : Store) (key : String) (value : Json.Value) :
    (store.set key value).2.IsDifference store (store.set key value).1 := by
  unfold Store.set
  split
  · next hdiffer =>
    refine ⟨KeySet.nodup_ofList _, fun other => ?_⟩
    dsimp only
    rw [Change.ofList, KeySet.mem_ofList, List.mem_singleton, Store.get?, Store.get?]
    by_cases hother : other = key
    · subst hother
      rw [Table.get?_insert_self]
      exact iff_of_true rfl (differ_iff.mp hdiffer)
    · rw [Table.get?_insert_of_ne hother]
      exact iff_of_false hother (not_not_intro (.refl _))
  · exact ⟨List.nodup_nil, fun other => iff_of_false List.not_mem_nil (not_not_intro (.refl _))⟩

theorem sameValue_set (store : Store) (key : String) (value : Json.Value) :
    SameValue ((store.set key value).1.get? key) (some value) := by
  obtain ⟨held, hheld, hsame⟩ := store.get?_set_self key value
  rw [hheld]
  exact .some hsame

theorem leadsTo_perform (store : Store) (operation : Operation) :
    LeadsTo store operation (store.perform operation) := by
  cases operation with
  | set key value =>
    exact .set (isDifference_set store key value) (sameValue_set store key value)
      fun other hother => Store.get?_set_of_ne store hother value
  | reload disk files =>
    rw [Store.perform]
    split
    · next after change hreload =>
      obtain ⟨values, hvalues, rfl, rfl⟩ := Store.reloadOn_eq_ok_iff.mp hreload
      exact .reload (Disk.values_eq_ok_iff.mp hvalues)
        ⟨KeySet.nodup_ofList _, fun key => Store.mem_changedKeys_iff.trans differ_iff⟩ fun key => rfl
    · next failure hreload =>
      refine .failed fun values hholds => ?_
      have hok := Store.reloadOn_eq_ok_iff.mpr ⟨values, Disk.values_eq_ok_iff.mpr hholds, rfl, rfl⟩
      rw [hok] at hreload
      cases hreload

/-! ## Runs of operations -/

/-- The store after some operations, and what each of them returns. -/
def Store.performAll (store : Store) : List Operation → Store × List (Except Failure Change)
  | [] => (store, [])
  | operation :: rest =>
    let (next, result) := store.perform operation
    let (after, results) := next.performAll rest
    (after, result :: results)

theorem LeadsTo.sameValue {store after : Store} {operation : Operation} {result : Except Failure Change}
    (h : LeadsTo store operation (after, result)) {key : String}
    (hkey : ∀ change, result = .ok change → key ∉ change.keys) :
    SameValue (store.get? key) (after.get? key) := by
  cases h with
  | set hdifference | reload _ hdifference =>
    exact Classical.not_not.mp fun hdiffer => hkey _ rfl ((hdifference.mem_iff key).mpr hdiffer)
  | failed => exact .refl _

/-- A key that no operation names along a run has at its end the value that it had at the start. -/
theorem sameValue_performAll {store : Store} {operations : List Operation} {key : String}
    (hkey : ∀ change, .ok change ∈ (store.performAll operations).2 → key ∉ change.keys) :
    SameValue (store.get? key) ((store.performAll operations).1.get? key) := by
  induction operations generalizing store with
  | nil => exact .refl _
  | cons operation rest ih =>
    have hfirst := (leadsTo_perform store operation).sameValue fun change hchange =>
      hkey change (hchange ▸ List.mem_cons_self)
    exact hfirst.trans (ih fun change hchange => hkey change (List.mem_cons_of_mem _ hchange))

end Settings

/-! ## Commands -/

namespace Session

open ChatAssistant.Settings

/-- The operation on the store that a command stands for. -/
def operation? (s : Session) (name : String) (args : List String) : Option Operation :=
  match Command.ofName? name, args with
  | some .set, key :: word :: rest =>
    if Key.names.contains key then some (.set key (setting word rest)) else none
  | some .reload, _ => some (.reload s.disk s.files)
  | _, _ => none

theorem store_setValue (s : Session) (key : String) (value : Json.Value) :
    (s.setValue key value).session.store = (s.store.set key value).1 := by
  unfold setValue
  dsimp only
  split
  · rfl
  · exact store_publish _ _

theorem store_runReload (s : Session) :
    s.runReload.session.store = (s.store.perform (.reload s.disk s.files)).1 := by
  rw [runReload, Store.perform]
  split
  · next hreload =>
    rw [hreload]
    rfl
  · next hreload =>
    rw [hreload]
    dsimp only
    split
    · rfl
    · exact store_publish _ _

theorem store_run (s : Session) (color : Bool) (name : String) (args : List String) :
    (s.run color name args).session.store =
      (s.operation? name args).elim s.store fun operation => (s.store.perform operation).1 := by
  unfold run operation?
  cases Command.ofName? name with
  | none => rfl
  | some command =>
    cases command with
    | set =>
      match args with
      | [] | [_] => rfl
      | key :: word :: rest =>
        dsimp only [runCommand, runSet]
        by_cases hkey : Key.names.contains key = true
        · rw [if_pos hkey, if_pos hkey]
          exact s.store_setValue key (setting word rest)
        · rw [if_neg hkey, if_neg hkey]
          rfl
    | reload => exact s.store_runReload
    | model => cases args <;> rfl
    | provider =>
      cases args with
      | nil => rfl
      | cons wanted rest =>
        dsimp only [runCommand, runProvider]
        cases Provider.parse wanted <;> rfl
    | quit | help | clear | models | config => rfl

/-- Every operation on a store names the keys that it changed, each once and no other ones; a file is
read as a whole or not at all.  What a command does to the store of its session is such an operation. -/
theorem operations_report_differences :
    (∀ (store : Store) (operation : Operation), LeadsTo store operation (store.perform operation)) ∧
    ∀ (s : Session) (color : Bool) (name : String) (args : List String),
      (s.run color name args).session.store =
        (s.operation? name args).elim s.store fun operation => (s.store.perform operation).1 :=
  ⟨leadsTo_perform, store_run⟩

end Session

end ChatAssistant
