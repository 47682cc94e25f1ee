/-!
# Lines

A line ends with a line feed, and a carriage return before the line feed belongs to the end.  Text
after the last line feed is a line too, unless it is empty.  Lines are cut in characters or in bytes.
-/

namespace ChatAssistant.Text

variable {α : Type}

/-- A line without the carriage return at its end; the line is given last character first. -/
def lineOf (isReturn : α → Bool) : List α → List α
  | [] => []
  | c :: line => (if isReturn c then line else c :: line).reverse

/-- The lines of a text; `line` holds the line under way, last character first. -/
def linesFrom (isFeed isReturn : α → Bool) (line : List α) : List α → List (List α)
  | [] => if line.isEmpty then [] else [line.reverse]
  | c :: rest =>
    if isFeed c then lineOf isReturn line :: linesFrom isFeed isReturn [] rest
    else linesFrom isFeed isReturn (c :: line) rest

/-- The lines of a text. -/
def lines (s : String) : List (List Char) :=
  linesFrom (· == '\n') (· == '\r') [] s.toList

/-- The lines of bytes. -/
def byteLines (bytes : List Nat) : List (List Nat) :=
  linesFrom (· == 10) (· == 13) [] bytes

end ChatAssistant.Text
