import ChatAssistant.Settings.Key
import ChatAssistant.Table

/-!
# Changes of settings

A change names the keys that changed.  A key is a path with dots between its parts, and a change of a
path is a change of everything below it.
-/

namespace ChatAssistant.Settings

/-- The keys that changed. -/
structure Change where
  keys : KeySet
  deriving DecidableEq

namespace Change

def ofList (keys : List String) : Change := ⟨KeySet.ofList keys⟩

def none : Change := ⟨[]⟩

/-- A change of every key that the assistant reads. -/
def everything : Change := ofList Key.names

def isEmpty (change : Change) : Bool := change.keys.isEmpty

/-- What is left of a text behind another one that it starts with. -/
def rest? : List Char → List Char → Option (List Char)
  | [], text => some text
  | c :: front, d :: text => if c = d then rest? front text else Option.none
  | _ :: _, [] => Option.none

/-- A path is the other one, or leads to it. -/
def covers (changed asked : String) : Bool :=
  match rest? changed.toList asked.toList with
  | some [] => true
  | some (c :: _) => c == '.'
  | Option.none => false

/-- The change may have altered the value under a key. -/
def affects (change : Change) (asked : String) : Bool :=
  change.keys.any fun changed => covers changed asked

end Change

end ChatAssistant.Settings
