import ChatAssistant.Proofs.Yaml.Grammar
import ChatAssistant.Yaml.Value

/-!
# The nodes of values

The events of a value build one node, whatever collection is under way.
-/

namespace ChatAssistant.Yaml.Node

/-- The node of a string. -/
def ofString (s : String) : Node := .scalar none none (styleOf s == .plain) s

mutual

/-- The node of a value. -/
def ofValue : Json.Value → Node
  | .null => .scalar none none true "null"
  | .bool true => .scalar none none true "true"
  | .bool false => .scalar none none true "false"
  | .number n => .scalar none none true (String.ofList (writeNumber n))
  | .string s => ofString s
  | .array items => .sequence none none (ofItems items)
  | .object members => .mapping none none (ofMembers members)

def ofItems : List Json.Value → List Node
  | [] => []
  | item :: rest => ofValue item :: ofItems rest

def ofMembers : List (String × Json.Value) → List (Node × Node)
  | [] => []
  | (key, value) :: rest => (ofString key, ofValue value) :: ofMembers rest

end

/-! ## Building -/

/-- Keys and values by turns. -/
def children : List (Node × Node) → List Node
  | [] => []
  | (key, value) :: rest => key :: value :: children rest

theorem pairs_children (entries : List (Node × Node)) : pairs (children entries) = entries := by
  induction entries with
  | nil => rfl
  | cons entry entries ih =>
    obtain ⟨key, value⟩ := entry
    rw [children, pairs, ih]

/-- Nodes that are put into the collection under way, one after another. -/
def Builder.addAll (b : Builder) (nodes : List Node) : Builder := nodes.foldl Builder.add b

theorem Builder.addAll_append (b : Builder) (nodes more : List Node) :
    b.addAll (nodes ++ more) = (b.addAll nodes).addAll more := List.foldl_append

/-- The builder with a new collection under way. -/
def Builder.within (b : Builder) (isMapping : Bool) (children : List Node) : Builder :=
  { b with frames := ⟨isMapping, none, none, children⟩ :: b.frames }

theorem Builder.addAll_within (b : Builder) (isMapping : Bool) (front nodes : List Node) :
    (b.within isMapping front).addAll nodes = b.within isMapping (nodes.reverse ++ front) := by
  induction nodes generalizing front with
  | nil => rfl
  | cons node nodes ih =>
    have hadd : (b.within isMapping front).add node = b.within isMapping (node :: front) := rfl
    change ((b.within isMapping front).add node).addAll nodes = _
    rw [hadd, ih, List.reverse_cons, List.append_assoc, List.singleton_append]

/-- The events put these nodes into the collection under way. -/
def Builds (events : List Event) (nodes : List Node) : Prop :=
  ∀ b : Builder, events.foldlM Builder.step b = some (b.addAll nodes)

theorem Builds.nil : Builds [] [] := fun _ => rfl

theorem Builds.append {events more : List Event} {nodes others : List Node} (h : Builds events nodes)
    (h' : Builds more others) : Builds (events ++ more) (nodes ++ others) := by
  intro b
  rw [List.foldlM_append, h b, Builder.addAll_append]
  exact h' _

theorem builds_scalar (isPlain : Bool) (text : String) :
    Builds [.scalar Event.bare isPlain text] [.scalar none none isPlain text] := fun _ => rfl

-- A collection is built from its children.
theorem builds_sequence {events : List Event} {nodes : List Node} (h : Builds events nodes) :
    Builds (.openSequence Event.bare :: (events ++ [.closeSequence])) [.sequence none none nodes] := by
  intro b
  have hopen : b.step (.openSequence Event.bare) = some (b.within false []) := rfl
  rw [List.foldlM_cons, hopen, Option.bind_eq_bind, Option.bind_some, List.foldlM_append, h _, Builder.addAll_within]
  change some (b.add (Frame.toNode ⟨false, none, none, nodes.reverse ++ []⟩)) = _
  rw [Frame.toNode, List.append_nil, List.reverse_reverse]
  rfl

theorem builds_mapping {events : List Event} {entries : List (Node × Node)}
    (h : Builds events (children entries)) :
    Builds (.openMapping Event.bare :: (events ++ [.closeMapping])) [.mapping none none entries] := by
  intro b
  have hopen : b.step (.openMapping Event.bare) = some (b.within true []) := rfl
  rw [List.foldlM_cons, hopen, Option.bind_eq_bind, Option.bind_some, List.foldlM_append, h _, Builder.addAll_within]
  change some (b.add (Frame.toNode ⟨true, none, none, (children entries).reverse ++ []⟩)) = _
  rw [Frame.toNode, List.append_nil, List.reverse_reverse]
  dsimp only
  rw [if_pos rfl, pairs_children]
  rfl

mutual

theorem builds_value (v : Json.Value) : Builds (Event.ofValue v) [ofValue v] := by
  match v with
  | .null => exact builds_scalar true _
  | .bool true => exact builds_scalar true _
  | .bool false => exact builds_scalar true _
  | .number n => exact builds_scalar true _
  | .string s => exact builds_scalar _ s
  | .array items => exact builds_sequence (builds_items items)
  | .object members => exact builds_mapping (builds_members members)

theorem builds_items (items : List Json.Value) : Builds (Event.ofItems items) (ofItems items) := by
  match items with
  | [] => exact .nil
  | item :: items => exact (builds_value item).append (builds_items items)

theorem builds_members (members : List (String × Json.Value)) :
    Builds (Event.ofMembers members) (children (ofMembers members)) := by
  match members with
  | [] => exact .nil
  | (key, value) :: members =>
    exact (builds_scalar _ key).append ((builds_value value).append (builds_members members))

end

end ChatAssistant.Yaml.Node
