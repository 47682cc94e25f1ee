import ChatAssistant.Channel
import Mathlib.Algebra.Group.Nat.Defs
import Mathlib.Data.List.Forall2

/-!
# What receivers of a channel get

A channel is seen as the list of all messages that were ever sent on it.  A receiver has a rest of
that list before it.  What it gets next depends on this rest and on the capacity alone.
-/

namespace ChatAssistant

variable {α : Type}

namespace Delivery

/-- How many messages a delivery stands for. -/
def size : Delivery α → Nat
  | .message _ => 1
  | .missed count => count

/-- A message stands for itself, and a notice for as many messages as it says, at least one. -/
def Covers : Delivery α → List α → Prop
  | .message value, piece => piece = [value]
  | .missed count, piece => piece.length = count ∧ 0 < count

/-- What a receiver gets next that has `rest` before it. -/
def first? (capacity : Nat) (rest : List α) : Option (Delivery α) :=
  if capacity < rest.length then some (.missed (rest.length - capacity))
  else rest.head?.map .message

/-- All that a receiver gets while nothing is sent: the newest messages, as many as the capacity, and
before them a notice of the others if there are any. -/
def upToDate (capacity : Nat) (rest : List α) : List (Delivery α) :=
  if capacity < rest.length then
    .missed (rest.length - capacity) :: (rest.drop (rest.length - capacity)).map .message
  else rest.map .message

theorem first?_eq_none {capacity : Nat} {rest : List α} :
    first? capacity rest = none ↔ rest = [] := by
  unfold first?
  split
  · next hlag => simpa using List.ne_nil_of_length_pos (by omega : 0 < rest.length)
  · simp

theorem size_le_of_first? {capacity : Nat} {rest : List α} {d : Delivery α}
    (h : first? capacity rest = some d) : d.size ≤ rest.length := by
  unfold first? at h
  split at h
  · cases h
    exact Nat.sub_le _ _
  · cases rest with
    | nil => simp at h
    | cons value rest =>
      simp only [List.head?_cons, Option.map_some, Option.some.injEq] at h
      subst h
      simp [size]

-- What a receiver gets next covers the front of its rest.
theorem covers_of_first? {capacity : Nat} {rest : List α} {d : Delivery α}
    (h : first? capacity rest = some d) : d.Covers (rest.take d.size) := by
  unfold first? at h
  split at h
  · cases h
    simp only [Covers, size, List.length_take]
    omega
  · cases rest with
    | nil => simp at h
    | cons value rest =>
      simp only [List.head?_cons, Option.map_some, Option.some.injEq] at h
      subst h
      simp [Covers, size]

theorem length_upToDate_le (capacity : Nat) (rest : List α) :
    (upToDate capacity rest).length ≤ capacity + 1 := by
  unfold upToDate
  split
  · simp only [List.length_cons, List.length_map, List.length_drop]
    omega
  · rw [List.length_map]
    omega

-- A receiver gets what comes next and then all that is behind it.
theorem upToDate_of_first? {capacity : Nat} {rest : List α} {d : Delivery α}
    (h : first? capacity rest = some d) :
    upToDate capacity rest = d :: upToDate capacity (rest.drop d.size) := by
  unfold first? at h
  split at h
  · next hlag =>
    cases h
    have hkept : ¬ capacity < (rest.drop (rest.length - capacity)).length := by
      rw [List.length_drop]
      omega
    rw [size, upToDate, upToDate, if_neg hkept, if_pos hlag]
  · next hroom =>
    cases rest with
    | nil => simp at h
    | cons value rest =>
      simp only [List.head?_cons, Option.map_some, Option.some.injEq] at h
      subst h
      rw [List.length_cons] at hroom
      rw [size, upToDate, upToDate, List.drop_one, List.tail_cons, List.length_cons,
        if_neg hroom, if_neg (by omega), List.map_cons]

theorem upToDate_of_first?_eq_none {capacity : Nat} {rest : List α}
    (h : first? capacity rest = none) : upToDate capacity rest = [] := by
  rw [first?_eq_none.mp h]
  rfl

end Delivery

namespace Channel

theorem powerFrom_pos (n : Nat) : ∀ fuel p, 0 < p → 0 < powerFrom n fuel p := by
  intro fuel
  induction fuel with
  | zero => exact fun p hp => hp
  | succ fuel ih =>
    intro p hp
    unfold powerFrom
    split
    · exact hp
    · exact ih (2 * p) (by omega)

theorem le_powerFrom (n : Nat) : ∀ fuel p, n ≤ 2 ^ fuel * p → n ≤ powerFrom n fuel p := by
  intro fuel
  induction fuel with
  | zero => exact fun p hp => by rwa [Nat.pow_zero, Nat.one_mul] at hp
  | succ fuel ih =>
    intro p hp
    unfold powerFrom
    split
    · assumption
    · rw [Nat.pow_succ, Nat.mul_assoc] at hp
      exact ih (2 * p) hp

-- A channel has room for as many messages as it is asked to keep.
theorem le_capacity_ofCapacity (n : Nat) : n ≤ (ofCapacity n : Channel α).capacity := by
  refine le_powerFrom n n 1 ?_
  rw [Nat.mul_one]
  exact Nat.le_of_lt Nat.lt_two_pow_self

/-- The channel after these messages have been sent, oldest first: it keeps the newest of them. -/
structure Carries (ch : Channel α) (all : List α) : Prop where
  capacity_pos : 0 < ch.capacity
  dropped : ch.dropped = all.length - ch.capacity
  kept : ch.kept = all.drop ch.dropped

theorem carries_ofCapacity (n : Nat) : (ofCapacity n : Channel α).Carries [] where
  capacity_pos := powerFrom_pos n n 1 (by omega)
  dropped := by simp [ofCapacity]
  kept := rfl

@[simp] theorem capacity_send (ch : Channel α) (value : α) :
    (ch.send value).capacity = ch.capacity := by
  unfold send
  split <;> rfl

theorem capacity_foldl_send (ch : Channel α) (values : List α) :
    (values.foldl send ch).capacity = ch.capacity := by
  induction values generalizing ch with
  | nil => rfl
  | cons value values ih => rw [List.foldl_cons, ih, capacity_send]

namespace Carries

variable {ch : Channel α} {all : List α}

theorem sent_eq (h : ch.Carries all) : ch.sent = all.length := by
  have hdropped := h.dropped
  rw [sent, h.kept, List.length_drop]
  omega

theorem send (h : ch.Carries all) (value : α) : (ch.send value).Carries (all ++ [value]) := by
  have hpos := h.capacity_pos
  have hdropped := h.dropped
  have hlength : ch.kept.length = all.length - ch.dropped := by rw [h.kept, List.length_drop]
  unfold Channel.send
  split
  · next hroom =>
    have hzero : ch.dropped = 0 := by omega
    refine ⟨hpos, ?_, ?_⟩
    · simp only [List.length_append, List.length_singleton]
      omega
    · simp only [h.kept, hzero, List.drop_zero]
  · next hfull =>
    refine ⟨hpos, ?_, ?_⟩
    · simp only [List.length_append, List.length_singleton]
      omega
    · simp only [h.kept, List.tail_drop]
      rw [List.drop_append_of_le_length (by omega)]

theorem foldl_send (h : ch.Carries all) (values : List α) :
    (values.foldl Channel.send ch).Carries (all ++ values) := by
  induction values generalizing ch all with
  | nil => rwa [List.append_nil]
  | cons value values ih =>
    rw [List.foldl_cons, ← List.singleton_append, ← List.append_assoc]
    exact ih (h.send value)

-- What a receiver gets next is told by its rest, and moves it on by what it stands for.
theorem receive?_eq (h : ch.Carries all) {r : Receiver} (hr : r.next ≤ all.length) :
    ch.receive? r =
      (Delivery.first? ch.capacity (all.drop r.next)).map fun d => (d, ⟨r.next + d.size⟩) := by
  have hdropped := h.dropped
  unfold receive? Delivery.first?
  rw [List.length_drop]
  -- The receiver is behind what is kept exactly where more is left than the capacity.
  by_cases hlag : r.next < ch.dropped
  · rw [if_pos hlag, if_pos (by omega), Option.map_some]
    have hcount : all.length - r.next - ch.capacity = ch.dropped - r.next := by omega
    have hnext : r.next + (ch.dropped - r.next) = ch.dropped := by omega
    simp only [hcount, Delivery.size, hnext]
  · rw [if_neg hlag, if_neg (by omega), h.kept, List.getElem?_drop, List.head?_drop]
    have hindex : ch.dropped + (r.next - ch.dropped) = r.next := by omega
    rw [hindex, Option.map_map]
    rfl

-- A receiver that is not too far behind stands at the end or gets the message at which it stands.
theorem receive?_cases (h : ch.Carries all) {r : Receiver} (hr : r.next ≤ all.length)
    (hroom : all.length - r.next ≤ ch.capacity) :
    (r.next = all.length ∧ ch.receive? r = none) ∨
      ∃ value, r.next < all.length ∧ all.drop r.next = value :: all.drop (r.next + 1) ∧
        ch.receive? r = some (.message value, ⟨r.next + 1⟩) := by
  have hreceive := h.receive?_eq hr
  rw [Delivery.first?, if_neg (by rw [List.length_drop]; omega)] at hreceive
  rcases Nat.lt_or_eq_of_le hr with hlt | hend
  · rw [List.drop_eq_getElem_cons hlt] at hreceive ⊢
    exact .inr ⟨_, hlt, rfl, hreceive⟩
  · rw [hend, List.drop_length] at hreceive
    exact .inl ⟨hend, hreceive⟩

-- It gets all of its rest.
theorem receiveUpTo_eq (h : ch.Carries all) (count : Nat) {r : Receiver} (hr : r.next ≤ all.length)
    (hroom : all.length - r.next ≤ ch.capacity) (hcount : all.length - r.next ≤ count) :
    ch.receiveUpTo count r = ((all.drop r.next).map .message, ⟨all.length⟩) := by
  -- The receiver comes one message closer to the end in each step that is left.
  induction count generalizing r with
  | zero =>
    have hend : r.next = all.length := by omega
    rw [receiveUpTo, hend, List.drop_length, List.map_nil, ← hend]
  | succ count ih =>
    unfold receiveUpTo
    rcases h.receive?_cases hr hroom with ⟨hend, hnone⟩ | ⟨value, hlt, hrest, hsome⟩
    · rw [hnone, hend, List.drop_length, List.map_nil, ← hend]
    · rw [hsome, hrest]
      dsimp only
      rw [ih (by simp only; omega) (by simp only; omega) (by simp only; omega), List.map_cons]

-- All that a receiver can get, and where it stands then.
theorem receiveAll_eq (h : ch.Carries all) {r : Receiver} (hr : r.next ≤ all.length) :
    ch.receiveAll r = (Delivery.upToDate ch.capacity (all.drop r.next), ⟨all.length⟩) := by
  have hdropped := h.dropped
  have hkept : ch.kept.length = all.length - ch.dropped := by rw [h.kept, List.length_drop]
  unfold receiveAll Delivery.upToDate
  -- After the notice the receiver stands where the kept messages begin.
  by_cases hlag : ch.capacity < (all.drop r.next).length
  · unfold receiveUpTo
    rw [h.receive?_eq hr, Delivery.first?, if_pos hlag, if_pos hlag, Option.map_some]
    rw [List.length_drop] at hlag ⊢
    simp only [Delivery.size]
    rw [h.receiveUpTo_eq _ (by simp only; omega) (by simp only; omega) (by simp only; omega),
      List.drop_drop]
  · rw [if_neg hlag]
    rw [List.length_drop] at hlag
    exact h.receiveUpTo_eq _ hr (by omega) (by omega)

end Carries

end Channel

end ChatAssistant
