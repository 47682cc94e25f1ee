import ChatAssistant.Terminal.Style
import ChatAssistant.Text.Lines
import ChatAssistant.Text.Split

/-!
# Boxes

A reply is shown in a box.  Its lines are wrapped at spaces where possible, and a word longer than a
row is cut.  Widths are counted in characters.
-/

namespace ChatAssistant.Terminal

/-! ## Wrapping -/

/-- A row with a further word on it. -/
def joinWord (row word : List Char) : List Char :=
  if row.isEmpty then word else row ++ ' ' :: word

/-- Cuts a word into full rows and the rest, which fits. -/
def cutWord (width : Nat) (word : List Char) : List (List Char) × List Char :=
  if _h : 0 < width ∧ width < word.length then
    let (rows, rest) := cutWord width (word.drop width)
    (word.take width :: rows, rest)
  else ([], word)
termination_by word.length
decreasing_by simp only [List.length_drop]; omega

/-- The rows of words; `row` is the one under way.  A word that does not fit starts a row of its
own. -/
def wrapWords (width : Nat) (row : List Char) : List (List Char) → List (List Char)
  | [] => [row]
  | word :: rest =>
    if (joinWord row word).length ≤ width then wrapWords width (joinWord row word) rest
    else
      let (full, start) := cutWord width word
      (if row.isEmpty then [] else [row]) ++ full ++ wrapWords width start rest

/-- The rows of a line. -/
def wrap (width : Nat) (line : List Char) : List (List Char) :=
  wrapWords width [] (Text.split ' ' line)

/-! ## The box -/

/-- The width of a box: two columns are left free on each side of the terminal, within bounds. -/
def boxWidth (columns : Nat) : Nat := min 120 (max 40 (columns - 4))

/-- The width of a row inside: the sides of the box and a space at each take the rest. -/
def innerWidth (columns : Nat) : Nat := boxWidth columns - 4

def border : Style := ⟨some .blue, [.dim]⟩

/-- An edge of the box between its two corners. -/
def edge (isShown : Bool) (columns : Nat) (left right : Char) : String :=
  border.paint isShown
    (String.ofList (left :: List.replicate (boxWidth columns - 2) '─' ++ [right]))

/-- A row between the two sides, with blanks behind it up to the width. -/
def boxRow (isShown : Bool) (columns : Nat) (row : List Char) : String :=
  let side := border.paint isShown "│"
  let filled := row ++ List.replicate (innerWidth columns - row.length) ' '
  String.join [side, " ", String.ofList filled, " ", side]

/-- The lines that show a reply. -/
def box (isShown : Bool) (columns : Nat) (reply : String) : List String :=
  edge isShown columns '┌' '┐' ::
    ((Text.lines reply).flatMap (wrap (innerWidth columns))).map (boxRow isShown columns) ++
    [edge isShown columns '└' '┘']

end ChatAssistant.Terminal
