import ChatAssistant.Json.Printer
import ChatAssistant.Json.Record
import ChatAssistant.Proofs.Json.Document
import ChatAssistant.Proofs.Json.Fields

/-!
# Written JSON

What the writer produces, as a text of the grammar: it writes the tokens of a document, and the document
says what was written.  A string is read back as it was, whatever its characters are.
-/

namespace ChatAssistant.Json

open ChatAssistant.Number

/-! ## Strings -/

/-- A control character that is written as a code unit, since it has no short escape. -/
def isCodeUnit (c : Char) : Bool :=
  c.toNat < 0x20 && c != '\x08' && c != '\x0c' && c != '\n' && c != '\r' && c != '\t'

/-- A character as a part of a written string. -/
def Piece.ofChar (c : Char) : Piece := if isCodeUnit c then .unit c.toNat else .char c

/-- The parts of a written string. -/
def piecesOf (s : String) : List Piece := s.toList.map Piece.ofChar

theorem hexNumber?_control :
    ∀ n < 0x20, hexNumber? ['0', '0', hexDigit (n / 16), hexDigit (n % 16)] = some n := by
  decide

theorem piecesSpelled_writeChar (c : Char) : PiecesSpelled [Piece.ofChar c] (writeChar c) := by
  have hshort : ∀ letter, shortEscape? letter = some c →
      PiecesSpelled [.char c] ['\\', letter] := fun letter h => .escape h .nil
  unfold writeChar
  by_cases hquote : c = '"'
  · subst hquote
    exact hshort '"' rfl
  by_cases hbackslash : c = '\\'
  · subst hbackslash
    exact hshort '\\' rfl
  by_cases hback : c = '\x08'
  · subst hback
    exact hshort 'b' rfl
  by_cases hfeed : c = '\x0c'
  · subst hfeed
    exact hshort 'f' rfl
  by_cases hline : c = '\n'
  · subst hline
    exact hshort 'n' rfl
  by_cases hreturn : c = '\r'
  · subst hreturn
    exact hshort 'r' rfl
  by_cases htab : c = '\t'
  · subst htab
    exact hshort 't' rfl
  rw [if_neg hquote, if_neg hbackslash, if_neg hback, if_neg hfeed, if_neg hline, if_neg hreturn,
    if_neg htab]
  -- What is left has no short escape: a control character is written as a unit, another one as itself.
  by_cases hcontrol : c.toNat < 0x20
  · have hunit : isCodeUnit c = true := by
      simp [isCodeUnit, hcontrol, hback, hfeed, hline, hreturn, htab]
    rw [if_pos hcontrol, Piece.ofChar, if_pos hunit]
    exact .unit rfl (hexNumber?_control c.toNat hcontrol) .nil
  · have hplain : isCodeUnit c = false := by simp [isCodeUnit, hcontrol]
    rw [if_neg hcontrol, Piece.ofChar, hplain]
    exact .char hquote hbackslash (by omega) .nil

theorem piecesSpelled_write (cs : List Char) :
    PiecesSpelled (cs.map Piece.ofChar) (cs.flatMap writeChar) := by
  induction cs with
  | nil => exact .nil
  | cons c cs ih => exact (piecesSpelled_writeChar c).append ih

theorem charsFrom_ofChar (cs : List Char) : charsFrom none (cs.map Piece.ofChar) = some cs := by
  induction cs with
  | nil => rfl
  | cons c cs ih =>
    rw [List.map_cons, Piece.ofChar]
    by_cases hunit : isCodeUnit c = true
    · have hcontrol : c.toNat < 0x20 := by
        simp only [isCodeUnit, Bool.and_eq_true, decide_eq_true_eq] at hunit
        omega
      have hhigh : isHighSurrogate c.toNat = false := by
        simp only [isHighSurrogate, Bool.and_eq_false_iff, decide_eq_false_iff_not]
        omega
      have hlow : isLowSurrogate c.toNat = false := by
        simp only [isLowSurrogate, Bool.and_eq_false_iff, decide_eq_false_iff_not]
        omega
      rw [if_pos hunit, charsFrom, hhigh, hlow, ih]
      simp only [Bool.false_eq_true, if_false, Option.map_some, Char.ofNat_toNat]
    · rw [if_neg hunit, charsFrom, ih]
      rfl

-- A written string is read as the text that it was written from.
theorem text?_piecesOf (s : String) : text? (piecesOf s) = some s := by
  rw [text?, piecesOf, charsFrom_ofChar, Option.map_some, String.ofList_toList]

/-! ## Documents -/

theorem Writes.append {cs ds : List Char} {tokens more : List Token} (h : Writes cs tokens)
    (hmore : Writes ds more) : Writes (cs ++ ds) (tokens ++ more) := by
  induction h with
  | nil => exact hmore
  | space hspace _ ih => exact .space hspace ih
  | token hspelled _ ih =>
    rw [List.append_assoc]
    exact .token hspelled ih

theorem Token.Spelled.writes {token : Token} {lexeme : List Char} (h : token.Spelled lexeme) :
    Writes lexeme [token] := by
  simpa only [List.append_nil] using Writes.token h .nil

namespace Raw

/-- A string as a document. -/
def ofText (s : String) : Raw := .string (piecesOf s)

theorem toText?_ofText (s : String) : (ofText s).toText? = some s := text?_piecesOf s

/-- A text that writes the document. -/
def IsText (cs : List Char) (raw : Raw) : Prop := Writes cs raw.tokens

theorem isText_writeString (s : String) : IsText (writeString s) (ofText s) :=
  (Token.Spelled.string (piecesSpelled_write s.toList)).writes

theorem writes_separated {parts : List (List Char)} {items : List Raw}
    (h : List.Forall₂ IsText parts items) : Writes (separated parts ++ [']']) (itemTokens items) := by
  induction h with
  | nil => exact Token.Spelled.closeArray.writes
  | @cons part item parts items hpart hrest ih =>
    cases hrest with
    | nil => exact hpart.append Token.Spelled.closeArray.writes
    | cons _ _ =>
      rw [separated, List.append_assoc]
      · exact hpart.append (Token.Spelled.comma.writes.append ih)
      · exact List.cons_ne_nil _ _

theorem isText_writeArray {parts : List (List Char)} {items : List Raw}
    (h : List.Forall₂ IsText parts items) : IsText (writeArray parts) (.array items) :=
  .token .openArray (writes_separated h)

/-- A key with a text, and a member of an object that they write. -/
def IsMemberText (written : String × List Char) (member : List Piece × Raw) : Prop :=
  member.1 = piecesOf written.1 ∧ IsText written.2 member.2

theorem writes_writeMember {written : String × List Char} {member : List Piece × Raw}
    (h : IsMemberText written member) {rest : List Char} {more : List Token}
    (hrest : Writes rest more) :
    Writes (writeMember written.1 written.2 ++ rest)
      (.string member.1 :: .colon :: (member.2.tokens ++ more)) := by
  obtain ⟨hkey, hvalue⟩ := h
  rw [writeMember, List.append_assoc, hkey]
  exact (isText_writeString written.1).append
    (Token.Spelled.colon.writes.append (hvalue.append hrest))

theorem writes_separated_members {parts : List (String × List Char)}
    {members : List (List Piece × Raw)} (h : List.Forall₂ IsMemberText parts members) :
    Writes (separated (parts.map fun m => writeMember m.1 m.2) ++ ['\x7d'])
      (memberTokens members) := by
  induction h with
  | nil => exact Token.Spelled.closeObject.writes
  | @cons part member parts members hpart hrest ih =>
    cases hrest with
    | nil => exact writes_writeMember hpart Token.Spelled.closeObject.writes
    | cons _ _ =>
      rw [List.map_cons, separated, List.append_assoc]
      · exact writes_writeMember hpart (Token.Spelled.comma.writes.append ih)
      · exact List.cons_ne_nil _ _

theorem isText_writeObject {parts : List (String × List Char)} {members : List (List Piece × Raw)}
    (h : List.Forall₂ IsMemberText parts members) : IsText (writeObject parts) (.object members) :=
  .token .openObject (writes_separated_members h)

/-! ### Records -/

/-- An object with a text for each key. -/
def ofMembers (members : List (String × Raw)) : Raw :=
  .object (members.map fun member => (piecesOf member.1, member.2))

theorem valuesUnder_eq_nil {name : String} {members : List (String × Raw)}
    (h : name ∉ members.map Prod.fst) :
    valuesUnder name (members.map fun member => (piecesOf member.1, member.2)) = [] := by
  induction members with
  | nil => rfl
  | cons member members ih =>
    rw [List.map_cons, List.mem_cons, not_or] at h
    have hne : text? (piecesOf member.1) ≠ some name := by
      rw [text?_piecesOf]
      exact fun heq => h.1 (Option.some.inj heq).symm
    rw [List.map_cons, valuesUnder_cons_of_ne hne, ih h.2]

theorem valuesUnder_eq_singleton {member : String × Raw} {members : List (String × Raw)}
    (h : (members.map Prod.fst).Nodup) (hmember : member ∈ members) :
    valuesUnder member.1 (members.map fun member => (piecesOf member.1, member.2)) = [member.2] := by
  induction members with
  | nil => cases hmember
  | cons first members ih =>
    rw [List.map_cons, List.nodup_cons] at h
    rw [List.map_cons]
    rcases List.mem_cons.mp hmember with rfl | hmember
    · rw [valuesUnder_cons_of_eq (text?_piecesOf _), valuesUnder_eq_nil h.1]
    · have hne : text? (piecesOf first.1) ≠ some member.1 := by
        rw [text?_piecesOf]
        exact fun heq => h.1 (Option.some.inj heq ▸ List.mem_map_of_mem hmember)
      rw [valuesUnder_cons_of_ne hne, ih h.2 hmember]

theorem fields?_ofMembers {names : List String} (members : List (String × Raw))
    (hnames : members.map Prod.fst = names) (h : names.Nodup) :
    (ofMembers members).fields? names = some (members.map fun member => some member.2) := by
  subst hnames
  rw [ofMembers, fields?_eq_some_iff h]
  refine .object (List.forall_mem_map.mpr fun member _ => ?_) ?_
  · rw [text?_piecesOf]
    rfl
  · rw [List.forall₂_map_left_iff, List.forall₂_map_right_iff, List.forall₂_same]
    exact fun member hmember => valuesUnder_eq_singleton h hmember

theorem parse?_of_isText {cs : List Char} {raw : Raw} (h : IsText cs raw) :
    parse? (String.ofList cs) = some raw := by
  rw [parse?_eq_some_iff, String.toList_ofList]
  exact h

end Raw

end ChatAssistant.Json
