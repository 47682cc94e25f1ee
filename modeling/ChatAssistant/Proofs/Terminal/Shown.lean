import ChatAssistant.Proofs.Terminal.Wrapping
import ChatAssistant.Terminal.Block

/-!
# What is read on a terminal

The texts of a failure and of a reply, spelled out.  A failure stands behind a sign, and a reply in a box, whose
rows hold the words of its lines.
-/

namespace ChatAssistant.Terminal

/-! ## Failures -/

/-- The sign in front of a failure: bold and red where the terminal shows colours. -/
def failureSign (hasColor : Bool) : String := if hasColor then "\x1b[31m\x1b[1merror:\x1b[0m" else "error:"

theorem paint_failureStyle (hasColor : Bool) : failureStyle.paint hasColor "error:" = failureSign hasColor := by
  cases hasColor <;> decide

theorem text_failure (d : Display) (clock : String) (failure : Failure) :
    Block.text d clock (.failure failure) = failureSign d.hasColor ++ " " ++ failure.message ++ "\n" := by
  rw [Block.text, Block.lines, paint_failureStyle, List.map_singleton, String.join_cons, String.join_nil,
    String.append_empty]

/-! ## Boxes -/

/-- A part of a box: dim and blue where the terminal shows colours. -/
def faint (hasColor : Bool) (part : String) : String :=
  if hasColor then "\x1b[34m\x1b[2m" ++ part ++ "\x1b[0m" else part

theorem paint_border (hasColor : Bool) (part : String) : border.paint hasColor part = faint hasColor part := by
  cases hasColor with
  | false => rfl
  | true =>
    have hfirst : String.join (border.color.toList.map fun c => escape c.code) ++
        String.join (border.attributes.map fun a => escape a.code) = "\x1b[34m\x1b[2m" := by decide
    have hlast : escape 0 = "\x1b[0m" := by decide
    rw [Style.paint, hfirst, hlast]
    rfl

/-- The rows of a box between its two edges, each with blanks behind it up to the width of the box. -/
def framed (d : Display) (rows : List (List Char)) : List String :=
  let level := String.ofList (List.replicate (boxWidth d.columns - 2) '─')
  let blanks := fun row : List Char => String.ofList (List.replicate (boxWidth d.columns - 4 - row.length) ' ')
  faint d.hasColor ("┌" ++ level ++ "┐") ::
    rows.map (fun row =>
      faint d.hasColor "│" ++ " " ++ String.ofList row ++ blanks row ++ " " ++ faint d.hasColor "│") ++
    [faint d.hasColor ("└" ++ level ++ "┘")]

theorem edge_eq (hasColor : Bool) (columns : Nat) (left right : Char) :
    edge hasColor columns left right =
      faint hasColor (String.singleton left ++ String.ofList (List.replicate (boxWidth columns - 2) '─') ++
        String.singleton right) := by
  rw [edge, paint_border]
  congr 1
  simp [String.ext_iff]

theorem boxRow_eq (hasColor : Bool) (columns : Nat) :
    boxRow hasColor columns = fun row =>
      faint hasColor "│" ++ " " ++ String.ofList row ++
        String.ofList (List.replicate (boxWidth columns - 4 - row.length) ' ') ++ " " ++ faint hasColor "│" := by
  funext row
  rw [boxRow, paint_border]
  simp [String.ext_iff, innerWidth]

theorem box_eq_framed (d : Display) (text : String) :
    box d.hasColor d.columns text = framed d ((Text.lines text).flatMap (wrap (innerWidth d.columns))) := by
  rw [box, edge_eq, edge_eq, boxRow_eq]
  rfl

/-- A text in a box: each of its lines is wrapped to the width of the box, and the rows of the lines stand in it one
below the other. -/
inductive IsBoxed (d : Display) (text : String) : String → Prop
  | intro {rows : List (List (List Char))} :
      List.Forall₂ (IsWrapping (boxWidth d.columns - 4)) (Text.lines text) rows →
      IsBoxed d text (String.join ((framed d rows.flatten).map (· ++ "\n")))

theorem isBoxed_text_reply (d : Display) (clock text : String) :
    IsBoxed d text (Block.text d clock (.reply text)) := by
  have hrows : List.Forall₂ (IsWrapping (boxWidth d.columns - 4)) (Text.lines text)
      ((Text.lines text).map (wrap (innerWidth d.columns))) := by
    rw [List.forall₂_map_right_iff, List.forall₂_same]
    exact fun line _ => isWrapping_wrap (innerWidth_pos d.columns) line
  rw [Block.text, Block.lines, box_eq_framed, List.flatMap_def]
  exact .intro hrows

/-! ## Streams -/

theorem errorText_failure (d : Display) (clock : String) (failure : Failure) :
    errorText d clock [.failure failure] = failureSign d.hasColor ++ " " ++ failure.message ++ "\n" := by
  rw [← text_failure d clock failure]
  exact String.empty_append

theorem isBoxed_outputText_reply (d : Display) (clock text : String) :
    IsBoxed d text (outputText d clock [.reply text]) := by
  have hone : outputText d clock [.reply text] = Block.text d clock (.reply text) := String.empty_append
  rw [hone]
  exact isBoxed_text_reply d clock text

end ChatAssistant.Terminal
