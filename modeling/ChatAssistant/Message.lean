/-!
# Messages

What is said in a conversation, and by whom.
-/

namespace ChatAssistant

inductive Role
  | system
  | user
  | assistant
  deriving DecidableEq

namespace Role

def all : List Role := [system, user, assistant]

def name : Role → String
  | system => "system"
  | user => "user"
  | assistant => "assistant"

/-- The role of a name, which is exact. -/
def ofName? (name : String) : Option Role :=
  all.find? fun r => r.name == name

theorem ofName?_name (r : Role) : ofName? r.name = some r := by
  cases r <;> rfl

theorem name_of_ofName? {name : String} {role : Role} (h : ofName? name = some role) :
    role.name = name := by
  simpa using List.find?_some h

end Role

structure Message where
  role : Role
  content : String
  deriving DecidableEq

end ChatAssistant
