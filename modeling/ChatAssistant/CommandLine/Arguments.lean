import ChatAssistant.Conversation.Action
import ChatAssistant.Number.Decimal
import ChatAssistant.Provider

/-!
# Command-line arguments

Options have a long name and most a letter; letters may be written together, and a value stands behind
its option, after an equals sign, or in the next argument.  The value of an option is looked at when
the next option or the end is reached, so that an argument nobody knows is reported first.
-/

namespace ChatAssistant.CommandLine

open ChatAssistant.Number

/-- What the program is asked to do. -/
structure Arguments where
  query : Option String
  chat : Bool
  file : Option String
  action : Option CodeAction
  instruction : Option String
  model : Option String
  provider : Option Provider
  temperature : Option (Extended single)
  maxTokens : Option Nat
  config : Option String
  deriving DecidableEq

/-- Why arguments are not accepted, or what is shown in place of running. -/
inductive Refusal
  | help
  | version
  | unknownArgument
  | missingValue
  | unneededValue
  | badValue
  | conflict
  | missingArgument
  deriving DecidableEq

inductive Opt
  | query
  | chat
  | file
  | action
  | instruction
  | model
  | provider
  | temperature
  | maxTokens
  | config
  | help
  | version
  deriving DecidableEq

namespace Opt

/-- The options with their long names and letters. -/
def named : List (Opt × String × Option Char) :=
  [(chat, "chat", some 'c'), (file, "file", some 'f'), (action, "action", some 'a'),
   (instruction, "instruction", some 'i'), (model, "model", some 'm'),
   (provider, "provider", some 'p'), (temperature, "temperature", none),
   (maxTokens, "max-tokens", none), (config, "config", none), (help, "help", some 'h'),
   (version, "version", some 'V')]

def ofName? (name : String) : Option Opt :=
  (named.find? fun entry => entry.2.1 == name).map Prod.fst

def ofLetter? (letter : Char) : Option Opt :=
  (named.find? fun entry => entry.2.2 == some letter).map Prod.fst

def takesValue : Opt → Bool
  | chat => false
  | help => false
  | version => false
  | _ => true

end Opt

namespace Arguments

def none : Arguments := ⟨.none, false, .none, .none, .none, .none, .none, .none, .none, .none⟩

/-- A count of thirty-two bits. -/
def count? (s : String) : Option Nat :=
  let (negative, ds) := takeSign s.toList
  if ds.isEmpty || !ds.all Char.isDigit then .none
  else
    let n := natOfDigits ds
    if (negative && n != 0) || 0x100000000 ≤ n then .none else some n

/-- A path is not empty. -/
def path (s : String) : Except Refusal String :=
  if s.isEmpty then .error .missingValue else .ok s

/-- Takes the value that is read from a text, if there is one. -/
def orBad {α : Type} : Option α → Except Refusal α
  | some value => .ok value
  | .none => .error .badValue

/-- Puts the value of an option in its place. -/
def set (args : Arguments) (opt : Opt) (value : String) : Except Refusal Arguments :=
  match opt with
  | .query => .ok { args with query := some value }
  | .chat => .ok { args with chat := true }
  | .file => (path value).map fun v => { args with file := some v }
  | .action => (orBad (CodeAction.parse value).toOption).map fun v => { args with action := some v }
  | .instruction => .ok { args with instruction := some value }
  | .model => .ok { args with model := some value }
  | .provider => (orBad (Provider.parse value).toOption).map fun v => { args with provider := some v }
  | .temperature =>
    (orBad (Extended.ofText? single value)).map fun v => { args with temperature := some v }
  | .maxTokens => (orBad (count? value)).map fun v => { args with maxTokens := some v }
  | .config => (path value).map fun v => { args with config := some v }
  | .help => .error .help
  | .version => .error .version

/-- An action and an instruction exclude each other, and both are about a file. -/
def check (args : Arguments) : Except Refusal Arguments :=
  if args.action.isSome && args.instruction.isSome then .error .conflict
  else if (args.action.isSome || args.instruction.isSome) && args.file.isNone then
    .error .missingArgument
  else .ok args

end Arguments

/-- The arguments read so far. -/
structure Reader where
  args : Arguments
  /-- The options that have been given. -/
  given : List Opt
  /-- The last option that takes a value, with its value if that has been met. -/
  pending : Option (Opt × Option String)
  /-- Only values follow. -/
  onlyValues : Bool
  /-- The query has been met. -/
  hasQuery : Bool

namespace Reader

def start : Reader := ⟨Arguments.none, [], none, false, false⟩

/-- Takes an option with its value; each is given at most once. -/
def give (r : Reader) (opt : Opt) (value : String) : Except Refusal Reader :=
  if r.given.contains opt then .error .conflict
  else (r.args.set opt value).map fun args => { r with args, given := opt :: r.given }

/-- Looks at the value of the last option. -/
def resolve (r : Reader) : Except Refusal Reader :=
  match r.pending with
  | none => .ok r
  | some (_, none) => .error .missingValue
  | some (opt, some value) => { r with pending := none }.give opt value

/-- An option with the value that is attached to it, if there is one. -/
def takeOption (r : Reader) (opt : Opt) (attached : Option String) : Except Refusal Reader := do
  let r ← r.resolve
  if opt.takesValue then
    match attached with
    | some value => r.give opt value
    | none => .ok { r with pending := some (opt, none) }
  else r.give opt ""

/-- The name and the attached value of a long option. -/
def splitName (cs : List Char) : String × Option String :=
  let name := cs.takeWhile (· != '=')
  match cs.dropWhile (· != '=') with
  | _ :: value => (String.ofList name, some (String.ofList value))
  | [] => (String.ofList name, none)

/-- An option by its long name. -/
def takeLong (r : Reader) (cs : List Char) : Except Refusal Reader :=
  let (name, attached) := splitName cs
  match Opt.ofName? name with
  | none => .error .unknownArgument
  | some opt =>
    if attached.isSome && !opt.takesValue then .error .unneededValue
    else r.takeOption opt attached

/-- The value that is attached to a letter. -/
def attachedTo : List Char → Option String
  | [] => none
  | '=' :: value => some (String.ofList value)
  | value => some (String.ofList value)

/-- Options by their letters; what follows the letter of an option with a value is its value. -/
def takeLetters (r : Reader) : List Char → Except Refusal Reader
  | [] => .ok r
  | letter :: rest =>
    match Opt.ofLetter? letter with
    | none => .error .unknownArgument
    | some opt =>
      if opt.takesValue then r.takeOption opt (attachedTo rest)
      else
        match r.takeOption opt none with
        | .ok r => takeLetters r rest
        | .error refusal => .error refusal

/-- An argument that is no option: the value of the last option, or the query. -/
def takeValue (r : Reader) (value : String) : Except Refusal Reader :=
  match r.pending, r.onlyValues with
  | some (opt, none), false => .ok { r with pending := some (opt, some value) }
  | _, _ =>
    if r.hasQuery then .error .unknownArgument
    else
      r.resolve.map fun r => { r with pending := some (.query, some value), hasQuery := true }

/-- One argument. -/
def take (r : Reader) (arg : String) : Except Refusal Reader :=
  if r.onlyValues then r.takeValue arg
  else
    match arg.toList with
    | ['-', '-'] => .ok { r with onlyValues := true }
    | '-' :: '-' :: name => r.takeLong name
    | '-' :: c :: letters => r.takeLetters (c :: letters)
    | _ => r.takeValue arg

end Reader

/-- Reads the arguments of the program. -/
def Arguments.parse (args : List String) : Except Refusal Arguments := do
  let r ← args.foldlM Reader.take Reader.start
  let r ← r.resolve
  r.args.check

end ChatAssistant.CommandLine
