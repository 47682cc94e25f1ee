import ChatAssistant.Failure
import ChatAssistant.Text.Split
import ChatAssistant.Text.Utf8

/-!
# Files

What the assistant sees of a file system: folders, and files with a text or with bytes that are no
text.  Reading and writing answer with the tree after them or with the reason why they failed.
-/

namespace ChatAssistant

/-- What a file holds: a text, or bytes that are none. -/
inductive Content
  | text (text : String)
  | bytes (bytes : List Nat)
  deriving DecidableEq

/-- What a file with these bytes holds. -/
def Content.ofBytes (bytes : List Nat) : Content :=
  match Text.Utf8.decode? bytes with
  | some decoded => .text decoded
  | none => .bytes bytes

def Content.toBytes : Content → List Nat
  | .text decoded => Text.Utf8.encode decoded
  | .bytes raw => raw

/-- A place in the tree: the names of the folders down to it, and its own. -/
abbrev Place := List String

structure FileTree where
  files : List (Place × Content)
  folders : List Place
  /-- The folder that relative paths start from. -/
  base : Place

/-- Why a file was not read or written. -/
inductive FileError
  | missing
  | isFolder
  | notFolder
  | undecodable
  deriving DecidableEq

def FileError.text : FileError → String
  | missing => "No such file or directory (os error 2)"
  | isFolder => "Is a directory (os error 21)"
  | notFolder => "Not a directory (os error 20)"
  | undecodable => "stream did not contain valid UTF-8"

def FileError.failure (e : FileError) : Failure := .io e.text

namespace FileTree

/-- What is at a place. -/
inductive Entry
  | file (content : Content)
  | folder
  | nothing

def entry (t : FileTree) (place : Place) : Entry :=
  if place.isEmpty || t.folders.contains place then .folder
  else
    match t.files.find? (·.1 == place) with
    | some (_, content) => .file content
    | none => .nothing

/-- The steps of a path.  A slash at the end asks for a folder, as a dot does. -/
def steps (path : String) : List String :=
  let names := Text.split '/' path.toList
  (names.filter fun name => !name.isEmpty).map String.ofList ++
    (if names.getLast? = some [] then ["."] else [])

/-- The place that a step leads to. -/
def stepTo (here : Place) (name : String) : Place :=
  if name = "." then here
  else if name = ".." then here.dropLast
  else here ++ [name]

/-- The place at the end of steps, each of which starts in a folder, or the reason why there is no
way. -/
def walk (t : FileTree) (here : Place) : List String → Except FileError Place
  | [] => .ok here
  | name :: rest =>
    match t.entry here with
    | .folder => t.walk (stepTo here name) rest
    | .file _ => .error .notFolder
    | .nothing => .error .missing

/-- The place that relative or absolute paths start from. -/
def startOf (t : FileTree) (path : String) : Place :=
  if path.startsWith "/" then [] else t.base

/-- Looks up a path. -/
def look (t : FileTree) (path : String) : Except FileError Entry := do
  let place ← t.walk (t.startOf path) (steps path)
  match t.entry place with
  | .nothing => .error .missing
  | entry => .ok entry

def exists? (t : FileTree) (path : String) : Bool :=
  match t.look path with
  | .ok _ => true
  | .error _ => false

/-- The text of a file. -/
def read (t : FileTree) (path : String) : Except FileError String := do
  match ← t.look path with
  | .file (.text text) => .ok text
  | .file (.bytes _) => .error .undecodable
  | _ => .error .isFolder

/-- The bytes of a file. -/
def readBytes (t : FileTree) (path : String) : Except FileError (List Nat) := do
  match ← t.look path with
  | .file content => .ok content.toBytes
  | _ => .error .isFolder

/-- Makes the folders that steps start in, and gives the place at their end. -/
def makeWay (t : FileTree) (here : Place) : List String → Except FileError (FileTree × Place)
  | [] => .ok (t, here)
  | name :: rest =>
    match t.entry here with
    | .folder => t.makeWay (stepTo here name) rest
    | .file _ => .error .notFolder
    | .nothing => ({ t with folders := here :: t.folders }).makeWay (stepTo here name) rest

/-- Makes a folder, and those on the way to it. -/
def makeFolder (t : FileTree) (path : String) : Except FileError FileTree :=
  (t.makeWay (t.startOf path) (steps path ++ ["."])).map Prod.fst

/-- Puts a file at a place, in place of the one that is there. -/
def put (t : FileTree) (place : Place) (content : Content) : FileTree :=
  { t with files := (place, content) :: t.files.filter (·.1 != place) }

/-- Takes a file out. -/
def remove (t : FileTree) (path : String) : FileTree :=
  let place := (steps path).foldl stepTo (t.startOf path)
  { t with files := t.files.filter (·.1 != place) }

/-- Writes a file; the folders on the way to it are made. -/
def write (t : FileTree) (path : String) (text : String) : Except FileError FileTree := do
  let (t, place) ← t.makeWay (t.startOf path) (steps path)
  match t.entry place with
  | .folder => .error .isFolder
  | _ => .ok (t.put place (.text text))

end FileTree

end ChatAssistant
