import ChatAssistant.Json.Value
import ChatAssistant.Number.Layout

/-!
# Writing JSON

Compact text: no blank outside strings, and in a string only quotes, backslashes and control
characters are escaped.
-/

namespace ChatAssistant.Json

open ChatAssistant.Number

/-- Doubles from `1e-5` to below `1e16` stand with their point in place; others get an exponent with
its sign. -/
def numberLayout : Layout := ⟨fun k => -4 ≤ k && k ≤ 16, true, true⟩

/-- The digit of a number below sixteen, in small letters. -/
def hexDigit (n : Nat) : Char :=
  if n < 10 then Char.ofNat (48 + n) else Char.ofNat (87 + n)

/-- A character as it stands in a string. -/
def writeChar (c : Char) : List Char :=
  if c = '"' then ['\\', '"']
  else if c = '\\' then ['\\', '\\']
  else if c = '\x08' then ['\\', 'b']
  else if c = '\x0c' then ['\\', 'f']
  else if c = '\n' then ['\\', 'n']
  else if c = '\r' then ['\\', 'r']
  else if c = '\t' then ['\\', 't']
  else if c.toNat < 0x20 then
    ['\\', 'u', '0', '0', hexDigit (c.toNat / 16), hexDigit (c.toNat % 16)]
  else [c]

/-- A string with its quotes. -/
def writeString (s : String) : List Char :=
  '"' :: (s.toList.flatMap writeChar ++ ['"'])

/-- Parts with commas between them. -/
def separated : List (List Char) → List Char
  | [] => []
  | [part] => part
  | part :: rest => part ++ ',' :: separated rest

/-- An array of written items. -/
def writeArray (items : List (List Char)) : List Char :=
  '[' :: (separated items ++ [']'])

/-- A key and its written value. -/
def writeMember (key : String) (value : List Char) : List Char :=
  writeString key ++ ':' :: value

/-- An object of written members, in the given order. -/
def writeObject (members : List (String × List Char)) : List Char :=
  '\x7b' :: (separated (members.map fun m => writeMember m.1 m.2) ++ ['\x7d'])

def writeInt (n : Int) : List Char :=
  if n < 0 then '-' :: Nat.toDigits 10 n.natAbs else Nat.toDigits 10 n.natAbs

def Number.write : Number → List Char
  | int n => writeInt n
  | float x => (numberLayout.write x).toList

namespace Value

mutual

/-- The compact text of a value. -/
def write : Value → List Char
  | null => "null".toList
  | bool true => "true".toList
  | bool false => "false".toList
  | number n => n.write
  | string s => writeString s
  | array items => writeArray (writeItems items)
  | object members => writeObject (writeMembers members)

/-- The texts of items. -/
def writeItems : List Value → List (List Char)
  | [] => []
  | item :: rest => write item :: writeItems rest

/-- The keys and the texts of members. -/
def writeMembers : List (String × Value) → List (String × List Char)
  | [] => []
  | (key, value) :: rest => (key, write value) :: writeMembers rest

end

/-- The compact text of a value. -/
def toText (v : Value) : String := String.ofList v.write

end Value

/-- The compact text of a number. -/
def Number.toText (n : Number) : String := String.ofList n.write

end ChatAssistant.Json
