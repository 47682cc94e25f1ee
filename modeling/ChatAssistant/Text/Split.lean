/-!
# Splitting

The pieces of a text between the places where a character stands, which are one more than the places.
-/

namespace ChatAssistant.Text

/-- The pieces between separators; `piece` holds the one under way, last character first. -/
def splitFrom (separator : Char) (piece : List Char) : List Char → List (List Char)
  | [] => [piece.reverse]
  | c :: rest =>
    if c = separator then piece.reverse :: splitFrom separator [] rest
    else splitFrom separator (c :: piece) rest

/-- The pieces between separators, empty ones included. -/
def split (separator : Char) (cs : List Char) : List (List Char) :=
  splitFrom separator [] cs

end ChatAssistant.Text
