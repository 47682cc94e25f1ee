/-!
# Channels

A channel hands every message to all its receivers.  It keeps the newest messages only: a receiver that
has fallen too far behind first learns how many messages it missed.
-/

namespace ChatAssistant

structure Channel (α : Type) where
  /-- How many messages are kept. -/
  capacity : Nat
  /-- How many older messages are gone. -/
  dropped : Nat
  /-- The messages that are kept, oldest first. -/
  kept : List α

/-- A receiver: how many messages lie behind it. -/
structure Receiver where
  next : Nat
  deriving DecidableEq

/-- What a receiver gets. -/
inductive Delivery (α : Type)
  | message (value : α)
  | missed (count : Nat)
  deriving DecidableEq

namespace Channel

variable {α : Type}

/-- The least power of two from `n` on, sought upwards from `p`. -/
def powerFrom (n : Nat) : Nat → Nat → Nat
  | 0, p => p
  | fuel + 1, p => if n ≤ p then p else powerFrom n fuel (2 * p)

/-- A channel that keeps at least `n` messages; their number is a power of two. -/
def ofCapacity (n : Nat) : Channel α := ⟨powerFrom n n 1, 0, []⟩

/-- How many messages have been sent. -/
def sent (ch : Channel α) : Nat := ch.dropped + ch.kept.length

/-- Sends a message; the oldest one goes where there is no room. -/
def send (ch : Channel α) (value : α) : Channel α :=
  if ch.kept.length < ch.capacity then { ch with kept := ch.kept ++ [value] }
  else { ch with dropped := ch.dropped + 1, kept := ch.kept.tail ++ [value] }

/-- A receiver of what is sent from now on. -/
def subscribe (ch : Channel α) : Receiver := ⟨ch.sent⟩

/-- What the receiver gets next, if there is anything. -/
def receive? (ch : Channel α) (r : Receiver) : Option (Delivery α × Receiver) :=
  if r.next < ch.dropped then some (.missed (ch.dropped - r.next), ⟨ch.dropped⟩)
  else (ch.kept[r.next - ch.dropped]?).map fun value => (.message value, ⟨r.next + 1⟩)

/-- What the receiver gets in at most `count` steps. -/
def receiveUpTo (ch : Channel α) : Nat → Receiver → List (Delivery α) × Receiver
  | 0, r => ([], r)
  | count + 1, r =>
    match ch.receive? r with
    | none => ([], r)
    | some (delivery, r) =>
      let (later, r) := receiveUpTo ch count r
      (delivery :: later, r)

/-- All that the receiver can get: at most one notice and the messages that are kept. -/
def receiveAll (ch : Channel α) (r : Receiver) : List (Delivery α) × Receiver :=
  ch.receiveUpTo (ch.kept.length + 1) r

/-- The messages that the receiver gets in at most `count` steps before it learns of missed ones. -/
def messagesUpTo (ch : Channel α) : Nat → Receiver → List α × Receiver
  | 0, r => ([], r)
  | count + 1, r =>
    match ch.receive? r with
    | some (.message value, r) =>
      let (later, r) := messagesUpTo ch count r
      (value :: later, r)
    | some (.missed _, r) => ([], r)
    | none => ([], r)

/-- The messages that the receiver can get before it learns of missed ones. -/
def receiveMessages (ch : Channel α) (r : Receiver) : List α × Receiver :=
  ch.messagesUpTo (ch.kept.length + 1) r

end Channel

end ChatAssistant
