/-!
# Styles of terminal text

A style is a colour and attributes.  Styled text starts with one escape sequence for each and ends
with one that takes them all back; on a terminal without colours it is the bare text.
-/

namespace ChatAssistant.Terminal

inductive Color
  | red
  | yellow
  | blue
  | magenta
  | cyan
  deriving DecidableEq

def Color.code : Color → Nat
  | red => 31
  | yellow => 33
  | blue => 34
  | magenta => 35
  | cyan => 36

inductive Attribute
  | bold
  | dim
  | underlined
  deriving DecidableEq

def Attribute.code : Attribute → Nat
  | bold => 1
  | dim => 2
  | underlined => 4

structure Style where
  color : Option Color
  attributes : List Attribute

/-- An escape sequence. -/
def escape (code : Nat) : String := "\x1b[" ++ toString code ++ "m"

/-- The text in a style, where the terminal shows styles: the colour first, then the attributes. -/
def Style.paint (style : Style) (isShown : Bool) (text : String) : String :=
  if isShown then
    String.join (style.color.toList.map fun c => escape c.code) ++
      String.join (style.attributes.map fun a => escape a.code) ++ text ++ escape 0
  else text

def title : Style := ⟨none, [.bold, .underlined]⟩

def hint : Style := ⟨none, [.dim]⟩

end ChatAssistant.Terminal
