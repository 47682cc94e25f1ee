import ChatAssistant.Text.CaseData

/-!
# Lower case

The full lower-case form of a text: each character by its mapping, the dotted capital I as two
characters, and a capital sigma as a final sigma where it ends a word.
-/

namespace ChatAssistant.Text

/-- The lower-case form of a character that stands alone. -/
def lowerSimple (c : Char) : Char :=
  let n := c.toNat
  match lowerRuns.find? fun run =>
      run.1 ≤ n && n ≤ run.2.1 && (n - run.1) % run.2.2.1 == 0 with
  | some run => Char.ofNat (Int.toNat (n + run.2.2.2))
  | none => c

/-- The first character that case handling does not skip has a case. -/
def meetsCased : List Char → Bool
  | [] => false
  | c :: rest =>
    if caseIgnorableSet.contains c then meetsCased rest else casedSet.contains c

/-- Lower case of the rest of a text; `before` holds the characters already passed, the last one
first. -/
def lowerFrom (before : List Char) : List Char → List Char
  | [] => []
  | c :: rest =>
    let lowered :=
      if c = 'Σ' then
        if meetsCased before && !meetsCased rest then ['ς'] else ['σ']
      else if c = 'İ' then ['i', '\u0307']
      else [lowerSimple c]
    lowered ++ lowerFrom (c :: before) rest

/-- The lower-case form of a text. -/
def toLower (s : String) : String :=
  String.ofList (lowerFrom [] s.toList)

end ChatAssistant.Text
