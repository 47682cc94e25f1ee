/-!
# Sets of characters given by ranges

A set of characters is a list of closed ranges of code points in ascending order.  A table cites the
standard property that it lists.
-/

namespace ChatAssistant.Text

/-- Closed ranges of code points. -/
abbrev CharSet := List (Nat × Nat)

/-- A code point of one of the ranges. -/
def CharSet.contains (set : CharSet) (c : Char) : Bool :=
  set.any fun range => range.1 ≤ c.toNat && c.toNat ≤ range.2

end ChatAssistant.Text
