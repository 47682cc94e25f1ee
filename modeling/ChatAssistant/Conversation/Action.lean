import ChatAssistant.Failure
import ChatAssistant.Text.Blank
import ChatAssistant.Text.LowerCase

/-!
# Code actions

Instructions about a piece of code that have a name of their own.
-/

namespace ChatAssistant

inductive CodeAction
  | explain
  | improve
  | findBugs
  | addComments
  | refactor
  | generateTests
  deriving DecidableEq

namespace CodeAction

/-- All actions, in the order in which they are listed. -/
def all : List CodeAction := [explain, improve, findBugs, addComments, refactor, generateTests]

def name : CodeAction → String
  | explain => "explain"
  | improve => "improve"
  | findBugs => "find-bugs"
  | addComments => "add-comments"
  | refactor => "refactor"
  | generateTests => "generate-tests"

def instruction : CodeAction → String
  | explain => "Explain Code: describe what this code does, step by step."
  | improve => "Improve Code: suggest concrete improvements to this code."
  | findBugs => "Find Bugs: analyze this code for potential issues and bugs."
  | addComments => "Add Comments: generate documentation comments for this code."
  | refactor => "Refactor: suggest refactoring improvements for this code."
  | generateTests => "Generate Tests: create unit tests for this code."

/-- A text in the spelling of names: lower case, with hyphens. -/
def spelling (s : String) : String :=
  String.ofList ((Text.toLower (Text.trim s)).toList.map fun c => if c = '_' then '-' else c)

/-- The action that a text names in any case, with underscores or hyphens. -/
def parse (s : String) : Except Failure CodeAction :=
  match all.find? fun a => a.name == spelling s with
  | some a => .ok a
  | none => .error (.input ("Unknown code action: " ++ s))

end CodeAction

end ChatAssistant
