import ChatAssistant.Json.Token

/-!
# JSON documents as written

The tree of a document before anything in it is given a value: numbers are text, strings may hold
code units that make up no character, and an object keeps every member in order, also a repeated one.
There is no limit to its depth.
-/

namespace ChatAssistant.Json

open ChatAssistant.Number

inductive Raw
  | null
  | bool (value : Bool)
  | number (text : DecimalText)
  | string (pieces : List Piece)
  | array (items : List Raw)
  | object (members : List (List Piece × Raw))

namespace Raw

/-- A container whose inner value is being read.  Lists hold the last entry first. -/
inductive Frame
  | array (items : List Raw)
  | member (members : List (List Piece × Raw)) (key : List Piece)

/-- What may come next, inside which containers. -/
inductive State
  | value (frames : List Frame)
  | arrayStart (frames : List Frame)
  | arrayRest (frames : List Frame) (items : List Raw)
  | objectStart (frames : List Frame)
  | key (frames : List Frame) (members : List (List Piece × Raw))
  | colon (frames : List Frame) (members : List (List Piece × Raw)) (key : List Piece)
  | objectRest (frames : List Frame) (members : List (List Piece × Raw))
  | complete (value : Raw)

/-- A value is finished. -/
def settle (value : Raw) : List Frame → State
  | [] => .complete value
  | .array items :: frames => .arrayRest frames (value :: items)
  | .member members key :: frames => .objectRest frames ((key, value) :: members)

/-- A token where a value may start. -/
def startValue (frames : List Frame) : Token → Option State
  | .null => some (settle .null frames)
  | .bool b => some (settle (.bool b) frames)
  | .number t => some (settle (.number t) frames)
  | .string s => some (settle (.string s) frames)
  | .openArray => some (.arrayStart frames)
  | .openObject => some (.objectStart frames)
  | _ => none

/-- One token. -/
def State.step : State → Token → Option State
  | value frames, token => startValue frames token
  | arrayStart frames, token =>
    if token = .closeArray then some (settle (.array []) frames)
    else startValue (.array [] :: frames) token
  | arrayRest frames items, token =>
    match token with
    | .comma => some (.value (.array items :: frames))
    | .closeArray => some (settle (.array items.reverse) frames)
    | _ => none
  | objectStart frames, token =>
    match token with
    | .closeObject => some (settle (.object []) frames)
    | .string name => some (.colon frames [] name)
    | _ => none
  | key frames members, token =>
    match token with
    | .string name => some (.colon frames members name)
    | _ => none
  | colon frames members name, token =>
    match token with
    | .colon => some (.value (.member members name :: frames))
    | _ => none
  | objectRest frames members, token =>
    match token with
    | .comma => some (.key frames members)
    | .closeObject => some (settle (.object members.reverse) frames)
    | _ => none
  | complete _, _ => none

/-- The states along the tokens. -/
def run : State → List Token → Option State
  | state, [] => some state
  | state, token :: rest =>
    match state.step token with
    | some next => run next rest
    | none => none

/-- The one value that the tokens write. -/
def ofTokens? (tokens : List Token) : Option Raw :=
  match run (.value []) tokens with
  | some (.complete value) => some value
  | _ => none

/-- Reads a document. -/
def parse? (s : String) : Option Raw :=
  (tokens? s).bind ofTokens?

end Raw

end ChatAssistant.Json
