import ChatAssistant.Yaml.Event

/-!
# YAML nodes

The tree of a document.  An anchor names a slot, and an alias stands for the node in its slot.  A new
slot is numbered by how many different names there are before it, so that a name given twice may share
a slot with the next one; the node that starts last has the slot.
-/

namespace ChatAssistant.Yaml

inductive Node
  | scalar (slot : Option Nat) (tag : Option String) (isPlain : Bool) (text : String)
  | sequence (slot : Option Nat) (tag : Option String) (items : List Node)
  | mapping (slot : Option Nat) (tag : Option String) (entries : List (Node × Node))
  | aliasOf (slot : Nat)

namespace Node

/-- A collection under way.  The children are the items, or keys and values by turns, the last one
first. -/
structure Frame where
  isMapping : Bool
  slot : Option Nat
  tag : Option String
  children : List Node

/-- The documents so far, the collections under way, and the slots of the names. -/
structure Builder where
  done : List Node
  frames : List Frame
  slots : List (String × Nat)
  names : Nat

/-- The slot of a new anchor. -/
def Builder.define (b : Builder) : Option String → Builder × Option Nat
  | none => (b, none)
  | some name =>
    let isNew := !b.slots.any (·.1 == name)
    ({ b with
        slots := (name, b.names) :: b.slots
        names := if isNew then b.names + 1 else b.names },
      some b.names)

/-- Puts a node into the collection under way. -/
def Builder.add (b : Builder) (node : Node) : Builder :=
  match b.frames with
  | [] => { b with done := node :: b.done }
  | frame :: rest =>
    { b with frames := { frame with children := node :: frame.children } :: rest }

/-- Keys with the values behind them. -/
def pairs : List Node → List (Node × Node)
  | key :: value :: rest => (key, value) :: pairs rest
  | _ => []

/-- The node of a finished collection. -/
def Frame.toNode (frame : Frame) : Node :=
  let children := frame.children.reverse
  if frame.isMapping then .mapping frame.slot frame.tag (pairs children)
  else .sequence frame.slot frame.tag children

def Builder.openFrame (b : Builder) (isMapping : Bool) (properties : Properties) : Builder :=
  let (b, slot) := b.define properties.anchor
  { b with frames := ⟨isMapping, slot, properties.tag, []⟩ :: b.frames }

def Builder.closeFrame (b : Builder) : Option Builder :=
  match b.frames with
  | [] => none
  | frame :: rest => some ({ b with frames := rest }.add frame.toNode)

/-- One event; an alias without an anchor before it is refused. -/
def Builder.step (b : Builder) : Event → Option Builder
  | .document => some { b with frames := [], slots := [], names := 0 }
  | .scalar properties isPlain text =>
    let (b, slot) := b.define properties.anchor
    some (b.add (.scalar slot properties.tag isPlain text))
  | .aliasOf name => (b.slots.find? (·.1 == name)).map fun entry => b.add (.aliasOf entry.2)
  | .openSequence properties => some (b.openFrame false properties)
  | .openMapping properties => some (b.openFrame true properties)
  | .closeSequence => b.closeFrame
  | .closeMapping => b.closeFrame

/-- The documents of a stream. -/
def ofEvents? (events : List Event) : Option (List Node) :=
  (events.foldlM Builder.step (⟨[], [], [], 0⟩ : Builder)).map fun b => b.done.reverse

/-- The documents of the text of a stream. -/
def parse? (s : String) : Option (List Node) := do
  let tokens ← tokens? s.toList
  let events ← Event.ofTokens? tokens
  ofEvents? events

mutual

/-- The nodes with slots, each before those inside it. -/
def anchored : Node → List (Nat × Node)
  | scalar slot tag isPlain text => slot.toList.map fun n => (n, scalar slot tag isPlain text)
  | sequence slot tag items =>
    (slot.toList.map fun n => (n, sequence slot tag items)) ++ anchoredItems items
  | mapping slot tag entries =>
    (slot.toList.map fun n => (n, mapping slot tag entries)) ++ anchoredEntries entries
  | aliasOf _ => []

def anchoredItems : List Node → List (Nat × Node)
  | [] => []
  | item :: rest => anchored item ++ anchoredItems rest

def anchoredEntries : List (Node × Node) → List (Nat × Node)
  | [] => []
  | (key, value) :: rest => anchored key ++ anchored value ++ anchoredEntries rest

end

mutual

/-- The number of events that make the node. -/
def eventCount : Node → Nat
  | scalar _ _ _ _ => 1
  | sequence _ _ items => 2 + itemEvents items
  | mapping _ _ entries => 2 + entryEvents entries
  | aliasOf _ => 1

def itemEvents : List Node → Nat
  | [] => 0
  | item :: rest => eventCount item + itemEvents rest

def entryEvents : List (Node × Node) → Nat
  | [] => 0
  | (key, value) :: rest => eventCount key + eventCount value + entryEvents rest

end

end Node

end ChatAssistant.Yaml
