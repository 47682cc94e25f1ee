import ChatAssistant.Table
import ChatAssistant.Yaml.Lexer

/-!
# YAML events

The tokens of a stream are checked against the grammar and become events: nodes with their anchors and
tags, the ends of collections, and the starts of documents.  What the text leaves out, such as a key
without a value, is an empty plain scalar.
-/

namespace ChatAssistant.Yaml

/-- The anchor and the tag of a node, the tag with its handle replaced. -/
structure Properties where
  anchor : Option String
  tag : Option String

inductive Event
  | document
  | scalar (properties : Properties) (isPlain : Bool) (text : String)
  | aliasOf (name : String)
  | openSequence (properties : Properties)
  | closeSequence
  | openMapping (properties : Properties)
  | closeMapping

namespace Event

/-- A node that the text leaves out. -/
def missing : Event := .scalar ⟨none, none⟩ true ""

/-- What the grammar expects. -/
inductive Expect
  | firstDocument
  | document
  | documentContent
  | documentEnd
  | node (block indentless : Bool)
  | blockEntry (first : Bool)
  | indentlessEntry
  | blockKey (first : Bool)
  | blockValue
  | flowEntry (first : Bool)
  | pairKey
  | pairValue
  | pairEnd
  | flowKey (first : Bool)
  | flowValue
  | flowNoValue
  deriving DecidableEq

/-- The state of the check: what is expected next, and after it; what is left of the tokens; the
meaning of tag handles; and the events so far, the last one first. -/
structure Parser where
  expect : List Expect
  tokens : List Token
  handles : List (String × String)
  out : List Event

/-- The handles that every document has. -/
def defaultHandles : List (String × String) :=
  [("!", "!"), ("!!", "tag:yaml.org,2002:")]

namespace Parser

/-- The next token starts one of these, so that there is no node before it. -/
def stopsAt (stops : List Token) (tokens : List Token) : Bool :=
  match tokens with
  | [] => false
  | token :: _ => stops.contains token

/-- Goes on with other expectations. -/
def goOn (p : Parser) (expect : List Expect) (tokens : List Token) : Parser :=
  { p with expect, tokens }

def emit (p : Parser) (event : Event) : Parser :=
  { p with out := event :: p.out }

/-- A node, unless the next token shows that it is left out. -/
def nodeUnless (p : Parser) (stops : List Token) (node : Expect) (later : List Expect)
    (tokens : List Token) : Parser :=
  if stopsAt stops tokens then (p.goOn later tokens).emit missing
  else p.goOn (node :: later) tokens

/-- The directives in front of a document: at most one version, which is 1.1 or 1.2, and each handle
once. -/
def directives (hasVersion : Bool) (handles : List (String × String)) :
    List Token → Option (List (String × String) × List Token)
  | .version major minor :: rest =>
    if hasVersion || major != 1 || !(minor == 1 || minor == 2) then none
    else directives true handles rest
  | .tagHandle handle uri :: rest =>
    if handles.any (·.1 == handle) then none
    else directives hasVersion ((handle, uri) :: handles) rest
  | rest => some (handles, rest)

/-- The start of an explicit document. -/
def explicitDocument (p : Parser) : Option Parser := do
  let (handles, rest) ← directives false [] p.tokens
  match rest with
  | .documentStart :: rest =>
    some (({ p with handles := handles ++ defaultHandles }.goOn
      [.documentContent, .documentEnd] rest).emit .document)
  | _ => none

def isDirective : Token → Bool
  | .version _ _ => true
  | .tagHandle _ _ => true
  | _ => false

/-- A token that belongs to no node of a document. -/
def isOutside (token : Token) : Bool :=
  isDirective token || token == .documentStart || token == .documentEnd

/-- The name of an anchor in front, and the tokens behind it. -/
def takeAnchor : List Token → Option String × List Token
  | .anchor name :: rest => (some name, rest)
  | tokens => (none, tokens)

/-- The handle and the rest of a tag in front, and the tokens behind it. -/
def takeTag : List Token → Option (String × String) × List Token
  | .tag handle suffix :: rest => (some (handle, suffix), rest)
  | tokens => (none, tokens)

/-- An anchor and a tag in either order. -/
def takeProperties (tokens : List Token) :
    Option String × Option (String × String) × List Token :=
  match takeAnchor tokens with
  | (some name, rest) => let (tag, rest) := takeTag rest; (some name, tag, rest)
  | (none, _) =>
    let (tag, rest) := takeTag tokens
    if tag.isSome then let (anchor, rest) := takeAnchor rest; (anchor, tag, rest)
    else (none, none, tokens)

/-- The tag with its handle replaced; an unknown handle is refused. -/
def resolveTag (handles : List (String × String)) :
    Option (String × String) → Option (Option String)
  | none => some none
  | some (handle, suffix) =>
    if handle.isEmpty then some (some suffix)
    else (handles.find? (·.1 == handle)).map fun entry => some (entry.2 ++ suffix)

/-- A node. -/
def node (p : Parser) (block indentless : Bool) (later : List Expect) : Option Parser :=
  match p.tokens with
  | .aliasOf name :: rest => some ((p.goOn later rest).emit (.aliasOf name))
  | tokens => do
    let (anchor, tag, rest) := takeProperties tokens
    let tag ← resolveTag p.handles tag
    let properties : Properties := ⟨anchor, tag⟩
    match rest with
    | .blockEntry :: _ =>
      if indentless then
        some ((p.goOn (.indentlessEntry :: later) rest).emit (.openSequence properties))
      else empty properties rest
    | .scalar isPlain text :: rest =>
      some ((p.goOn later rest).emit (.scalar properties isPlain text))
    | .openSequence :: rest =>
      some ((p.goOn (.flowEntry true :: later) rest).emit (.openSequence properties))
    | .openMapping :: rest =>
      some ((p.goOn (.flowKey true :: later) rest).emit (.openMapping properties))
    | .blockSequence :: more =>
      if block then
        some ((p.goOn (.blockEntry true :: later) more).emit (.openSequence properties))
      else empty properties rest
    | .blockMapping :: more =>
      if block then
        some ((p.goOn (.blockKey true :: later) more).emit (.openMapping properties))
      else empty properties rest
    | _ => empty properties rest
where
  /-- Only properties stand for a node. -/
  empty (properties : Properties) (rest : List Token) : Option Parser :=
    if properties.anchor.isSome || properties.tag.isSome then
      some ((p.goOn later rest).emit (.scalar properties true ""))
    else none

/-- One step: the first expectation meets the next token. -/
def step (p : Parser) : Option Parser :=
  match p.expect with
  | [] => some p
  | .firstDocument :: _ =>
    match p.tokens with
    | [] => some { p with expect := [] }
    | token :: _ =>
      if isDirective token || token == .documentStart then p.explicitDocument
      else
        some (({ p with handles := defaultHandles }.goOn
          [.node true false, .documentEnd] p.tokens).emit .document)
  | .document :: later =>
    match p.tokens with
    | [] => some { p with expect := [] }
    | .documentEnd :: rest => some (p.goOn (.document :: later) rest)
    | _ => p.explicitDocument
  | .documentContent :: later =>
    match p.tokens with
    | [] => some ((p.goOn later []).emit missing)
    | token :: _ =>
      if isOutside token then some ((p.goOn later p.tokens).emit missing)
      else p.node true false later
  | .documentEnd :: _ =>
    match p.tokens with
    | .documentEnd :: rest => some (p.goOn [.document] rest)
    | tokens => some (p.goOn [.document] tokens)
  | .node block indentless :: later => p.node block indentless later
  | .blockEntry _ :: later =>
    match p.tokens with
    | .blockEntry :: rest =>
      some (p.nodeUnless [.blockEntry, .blockEnd] (.node true false)
        (.blockEntry false :: later) rest)
    | .blockEnd :: rest => some ((p.goOn later rest).emit .closeSequence)
    | _ => none
  | .indentlessEntry :: later =>
    match p.tokens with
    | .blockEntry :: rest =>
      some (p.nodeUnless [.blockEntry, .key, .value, .blockEnd] (.node true false)
        (.indentlessEntry :: later) rest)
    | tokens => some ((p.goOn later tokens).emit .closeSequence)
  | .blockKey _ :: later =>
    match p.tokens with
    | .key :: rest =>
      some (p.nodeUnless [.key, .value, .blockEnd] (.node true true) (.blockValue :: later) rest)
    | .blockEnd :: rest => some ((p.goOn later rest).emit .closeMapping)
    | _ => none
  | .blockValue :: later =>
    match p.tokens with
    | .value :: rest =>
      some (p.nodeUnless [.key, .value, .blockEnd] (.node true true)
        (.blockKey false :: later) rest)
    | tokens => some ((p.goOn (.blockKey false :: later) tokens).emit missing)
  | .flowEntry first :: later =>
    match p.tokens with
    | .closeSequence :: rest => some ((p.goOn later rest).emit .closeSequence)
    | tokens => do
      let tokens ← if first then some tokens else afterComma tokens
      match tokens with
      | .key :: rest =>
        some ((p.goOn (.pairKey :: .flowEntry false :: later) rest).emit
          (.openMapping ⟨none, none⟩))
      | .closeSequence :: rest => some ((p.goOn later rest).emit .closeSequence)
      | _ => some (p.goOn (.node false false :: .flowEntry false :: later) tokens)
  | .pairKey :: later =>
    if stopsAt [.value, .flowEntry, .closeSequence] p.tokens then
      some ((p.goOn (.pairValue :: later) p.tokens.tail).emit missing)
    else some (p.goOn (.node false false :: .pairValue :: later) p.tokens)
  | .pairValue :: later =>
    match p.tokens with
    | .value :: rest =>
      some (p.nodeUnless [.flowEntry, .closeSequence] (.node false false)
        (.pairEnd :: later) rest)
    | tokens => some ((p.goOn (.pairEnd :: later) tokens).emit missing)
  | .pairEnd :: later => some ((p.goOn later p.tokens).emit .closeMapping)
  | .flowKey first :: later =>
    match p.tokens with
    | .closeMapping :: rest => some ((p.goOn later rest).emit .closeMapping)
    | tokens => do
      let tokens ← if first then some tokens else afterComma tokens
      match tokens with
      | .key :: rest =>
        some (p.nodeUnless [.value, .flowEntry, .closeMapping] (.node false false)
          (.flowValue :: later) rest)
      | .closeMapping :: rest => some ((p.goOn later rest).emit .closeMapping)
      | _ => some (p.goOn (.node false false :: .flowNoValue :: later) tokens)
  | .flowValue :: later =>
    match p.tokens with
    | .value :: rest =>
      some (p.nodeUnless [.flowEntry, .closeMapping] (.node false false)
        (.flowKey false :: later) rest)
    | tokens => some ((p.goOn (.flowKey false :: later) tokens).emit missing)
  | .flowNoValue :: later => some ((p.goOn (.flowKey false :: later) p.tokens).emit missing)
where
  /-- The tokens behind a comma, which has to come next. -/
  afterComma : List Token → Option (List Token)
    | .flowEntry :: rest => some rest
    | _ => none

/-- Steps until nothing is expected any more. -/
def run : Nat → Parser → Option Parser
  | 0, _ => none
  | fuel + 1, p => if p.expect.isEmpty then some p else p.step.bind (run fuel)

end Parser

/-- The events of the tokens of a stream.  Between two tokens there are fewer than eight steps. -/
def ofTokens? (tokens : List Token) : Option (List Event) :=
  (Parser.run (8 * (tokens.length + 2)) ⟨[.firstDocument], tokens, defaultHandles, []⟩).map
    fun p => p.out.reverse

end Event

end ChatAssistant.Yaml
