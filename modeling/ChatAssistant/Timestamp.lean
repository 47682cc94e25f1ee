import ChatAssistant.Number.Decimal
import ChatAssistant.Text.Blank

/-!
# Timestamps

An instant is a count of seconds since the start of 1970 in universal time and a part of a second in
nanoseconds.  A leap second is written as the sixtieth second of its minute; it is kept as the second
before it with a part of one second or more.
-/

namespace ChatAssistant

open ChatAssistant.Number

structure Timestamp where
  seconds : Int
  nanos : Nat
  deriving DecidableEq

namespace Timestamp

/-! ## The calendar -/

def isLeapYear (year : Int) : Bool :=
  year % 4 == 0 && (year % 100 != 0 || year % 400 == 0)

def daysInMonth (year : Int) (month : Nat) : Nat :=
  if month = 2 then (if isLeapYear year then 29 else 28)
  else if month = 4 ∨ month = 6 ∨ month = 9 ∨ month = 11 then 30
  else 31

/-- The days from 1970-01-01 to a date.  Years are counted from March, so that a leap day is the last
day of its year. -/
def daysOfDate (year : Int) (month day : Nat) : Int :=
  let y := if month ≤ 2 then year - 1 else year
  let era := y / 400
  let yearOfEra := y % 400
  let monthFromMarch : Int := (month + 9) % 12
  let dayOfYear := (153 * monthFromMarch + 2) / 5 + day - 1
  let dayOfEra := yearOfEra * 365 + yearOfEra / 4 - yearOfEra / 100 + dayOfYear
  era * 146097 + dayOfEra - 719468

/-- The year, month and day that lie a number of days after 1970-01-01. -/
def dateOfDays (days : Int) : Int × Nat × Nat :=
  let z := days + 719468
  let era := z / 146097
  let dayOfEra := z % 146097
  let yearOfEra := (dayOfEra - dayOfEra / 1460 + dayOfEra / 36524 - dayOfEra / 146096) / 365
  let dayOfYear := dayOfEra - (365 * yearOfEra + yearOfEra / 4 - yearOfEra / 100)
  let monthFromMarch := (5 * dayOfYear + 2) / 153
  let day := dayOfYear - (153 * monthFromMarch + 2) / 5 + 1
  let month := if monthFromMarch < 10 then monthFromMarch + 3 else monthFromMarch - 9
  let year := yearOfEra + era * 400
  (if month ≤ 2 then year + 1 else year, month.toNat, day.toNat)

/-- Years that a date may have. -/
def isYear (year : Int) : Bool := decide (-262143 ≤ year) && decide (year ≤ 262142)

/-! ## Reading -/

def dropBlanks (cs : List Char) : List Char := cs.dropWhile Text.isBlank

/-- A number of one up to `most` digits. -/
def digits? (most : Nat) (cs : List Char) : Option (Nat × List Char) :=
  let ds := (cs.take most).takeWhile Char.isDigit
  if ds.isEmpty then none else some (natOfDigits ds, cs.drop ds.length)

/-- A number of at most two digits, after blanks, within bounds. -/
def field? (low high : Nat) (cs : List Char) : Option (Nat × List Char) := do
  let (n, rest) ← digits? 2 (dropBlanks cs)
  if low ≤ n ∧ n ≤ high then some (n, rest) else none

/-- A character after blanks. -/
def sign? (c : Char) (cs : List Char) : Option (List Char) :=
  match dropBlanks cs with
  | d :: rest => if d = c then some rest else none
  | [] => none

/-- A year: at most four digits, or any number of them behind a sign. -/
def year? (cs : List Char) : Option (Int × List Char) := do
  let cs := dropBlanks cs
  let (year, rest) ←
    match cs with
    | '-' :: more => (digits? more.length more).map fun r => (-(r.1 : Int), r.2)
    | '+' :: more => (digits? more.length more).map fun r => ((r.1 : Int), r.2)
    | _ => (digits? 4 cs).map fun r => ((r.1 : Int), r.2)
  if isYear year then some (year, rest) else none

/-- A part of a second behind a point; digits past the ninth do not count. -/
def fraction? (cs : List Char) : Option (Nat × List Char) :=
  match cs with
  | '.' :: more =>
    let ds := more.takeWhile Char.isDigit
    if ds.isEmpty then none
    else
      let kept := ds.take 9
      some (natOfDigits kept * Nat.pow 10 (9 - kept.length), more.drop ds.length)
  | _ => some (0, cs)

/-- The minutes of an offset from universal time. -/
def offsetMinutes? (cs : List Char) : Option (Nat × List Char) :=
  match cs with
  | h :: k :: rest =>
    if h.isDigit && k.isDigit then
      match rest.dropWhile fun c => c == ':' || Text.isBlank c with
      | m :: n :: rest =>
        if m.isDigit && n.isDigit && m < '6' then
          let minutes := (natOfDigits [h, k]) * 60 + natOfDigits [m, n]
          if minutes < 1440 then some (minutes, rest) else none
        else none
      | _ => none
    else none
  | _ => none

/-- An offset from universal time, in minutes. -/
def offset? (cs : List Char) : Option (Int × List Char) :=
  match cs with
  | c :: rest =>
    if c = 'Z' ∨ c = 'z' then some (0, rest)
    else if isWord "utc" (cs.take 3) then some (0, cs.drop 3)
    else if c = '+' then (offsetMinutes? rest).map fun r => ((r.1 : Int), r.2)
    else if c = '-' ∨ c = '−' then (offsetMinutes? rest).map fun r => (-(r.1 : Int), r.2)
    else none
  | [] => none

/-- The character between a date and a time. -/
def separator? (cs : List Char) : Option (List Char) :=
  match cs with
  | c :: rest => if c = 'T' ∨ c = 't' ∨ c = ' ' then some rest else none
  | [] => none

/-- Reads a date, a time and an offset; blanks may stand between their parts. -/
def parse? (s : String) : Option Timestamp := do
  let (year, cs) ← year? s.toList
  let cs ← sign? '-' cs
  let (month, cs) ← field? 1 12 cs
  let cs ← sign? '-' cs
  let (day, cs) ← field? 1 31 cs
  let cs ← separator? cs
  let (hour, cs) ← field? 0 23 cs
  let cs ← sign? ':' cs
  let (minute, cs) ← field? 0 59 cs
  let cs ← sign? ':' cs
  let (second, cs) ← field? 0 60 cs
  let (nanos, cs) ← fraction? cs
  let (offset, cs) ← offset? (dropBlanks cs)
  if (dropBlanks cs).isEmpty && day ≤ daysInMonth year month then
    let isLeap := second = 60
    let clock : Int := hour * 3600 + minute * 60 + (if isLeap then 59 else second : Nat)
    let seconds := daysOfDate year month day * 86400 + clock - offset * 60
    if isYear (dateOfDays (seconds / 86400)).1 then
      some ⟨seconds, if isLeap then nanos + 1000000000 else nanos⟩
    else none
  else none

/-! ## Writing -/

/-- A number with zeros in front up to a width. -/
def padded (width n : Nat) : List Char :=
  let ds := Nat.toDigits 10 n
  List.replicate (width - ds.length) '0' ++ ds

/-- A year of four digits, with a sign where it has more or is negative. -/
def writeYear (year : Int) : List Char :=
  if 0 ≤ year ∧ year ≤ 9999 then padded 4 year.toNat
  else (if year < 0 then '-' else '+') :: padded 4 year.natAbs

/-- A part of a second in none, three, six or nine digits, as few as keep it. -/
def writeFraction (nanos : Nat) : List Char :=
  if nanos = 0 then []
  else if nanos % 1000000 = 0 then '.' :: padded 3 (nanos / 1000000)
  else if nanos % 1000 = 0 then '.' :: padded 6 (nanos / 1000)
  else '.' :: padded 9 nanos

/-- The part of a second is that of a leap second. -/
def isLeap (t : Timestamp) : Bool := 1000000000 ≤ t.nanos

/-- The time of day in universal time. -/
def clock (t : Timestamp) : List Char :=
  let second := (t.seconds % 86400).toNat
  padded 2 (second / 3600) ++ ':' :: padded 2 (second / 60 % 60) ++
    ':' :: padded 2 (if t.isLeap then second % 60 + 1 else second % 60)

/-- The text of an instant in universal time. -/
def toText (t : Timestamp) : String :=
  let (year, month, day) := dateOfDays (t.seconds / 86400)
  let nanos := if t.isLeap then t.nanos - 1000000000 else t.nanos
  String.ofList
    (writeYear year ++ '-' :: padded 2 month ++ '-' :: padded 2 day ++
      'T' :: t.clock ++ writeFraction nanos ++ ['Z'])

end Timestamp

end ChatAssistant
