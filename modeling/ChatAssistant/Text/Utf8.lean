/-!
# Reading UTF-8

Bytes are read by a machine that holds the character under way.  A strict reading refuses any bytes
that are not UTF-8; a lenient one writes a replacement character for each longest start of a
character that is not completed, and for each byte that starts none.
-/

namespace ChatAssistant.Text.Utf8

/-- A character under way: the bits so far, the bytes to come, and the range of the next byte. -/
structure Partial where
  bits : Nat
  missing : Nat
  low : Nat
  high : Nat

/-- What a byte means where a character may start. -/
inductive Lead
  | char (c : Char)
  | more (part : Partial)
  | invalid

/-- The meaning of a first byte.  The range of the second byte rules out over-long forms,
surrogates and what lies past the last code point. -/
def lead (b : Nat) : Lead :=
  if b < 0x80 then .char (Char.ofNat b)
  else if b < 0xC2 then .invalid
  else if b < 0xE0 then .more ⟨b - 0xC0, 1, 0x80, 0xBF⟩
  else if b = 0xE0 then .more ⟨0, 2, 0xA0, 0xBF⟩
  else if b = 0xED then .more ⟨0xD, 2, 0x80, 0x9F⟩
  else if b < 0xF0 then .more ⟨b - 0xE0, 2, 0x80, 0xBF⟩
  else if b = 0xF0 then .more ⟨0, 3, 0x90, 0xBF⟩
  else if b < 0xF4 then .more ⟨b - 0xF0, 3, 0x80, 0xBF⟩
  else if b = 0xF4 then .more ⟨4, 3, 0x80, 0x8F⟩
  else .invalid

/-- The lenient reading; `state` is the character under way. -/
def lenientFrom (state : Option Partial) : List Nat → List Char
  | [] => if state.isSome then ['\uFFFD'] else []
  | b :: rest =>
    match state with
    | some part =>
      if part.low ≤ b && b ≤ part.high then
        let bits := part.bits * 64 + (b - 0x80)
        if part.missing = 1 then Char.ofNat bits :: lenientFrom none rest
        else lenientFrom (some ⟨bits, part.missing - 1, 0x80, 0xBF⟩) rest
      else
        '\uFFFD' ::
          match lead b with
          | .char c => c :: lenientFrom none rest
          | .more next => lenientFrom (some next) rest
          | .invalid => '\uFFFD' :: lenientFrom none rest
    | none =>
      match lead b with
      | .char c => c :: lenientFrom none rest
      | .more next => lenientFrom (some next) rest
      | .invalid => '\uFFFD' :: lenientFrom none rest

/-- The strict reading; `state` is the character under way. -/
def strictFrom (state : Option Partial) : List Nat → Option (List Char)
  | [] => if state.isSome then none else some []
  | b :: rest =>
    match state with
    | some part =>
      if part.low ≤ b && b ≤ part.high then
        let bits := part.bits * 64 + (b - 0x80)
        if part.missing = 1 then (strictFrom none rest).map (Char.ofNat bits :: ·)
        else strictFrom (some ⟨bits, part.missing - 1, 0x80, 0xBF⟩) rest
      else none
    | none =>
      match lead b with
      | .char c => (strictFrom none rest).map (c :: ·)
      | .more next => strictFrom (some next) rest
      | .invalid => none

/-- The text of bytes, with replacement characters for what is not UTF-8. -/
def decodeLenient (bytes : List Nat) : String :=
  String.ofList (lenientFrom none bytes)

/-- The text of bytes that are UTF-8. -/
def decode? (bytes : List Nat) : Option String :=
  (strictFrom none bytes).map String.ofList

/-- The bytes of a text. -/
def encode (s : String) : List Nat :=
  s.toUTF8.toList.map UInt8.toNat

end ChatAssistant.Text.Utf8
