import ChatAssistant.Table
import ChatAssistant.Number.Binary

/-!
# JSON values

A number is an integer of sixty-four bits, with or without a sign, or a double.  An object is a table
in key order.
-/

namespace ChatAssistant.Json

open ChatAssistant.Number

/-- A number: an integer from `-2 ^ 63` to `2 ^ 64 - 1`, or a finite double. -/
inductive Number
  | int (value : Int)
  | float (value : Finite double)
  deriving DecidableEq

inductive Value
  | null
  | bool (value : Bool)
  | number (value : Number)
  | string (value : String)
  | array (items : List Value)
  | object (members : List (String × Value))

namespace Number

/-- Equal numbers: integers by value, doubles by value; an integer equals no double. -/
def same : Number → Number → Bool
  | int a, int b => a == b
  | float a, float b => a.same b
  | _, _ => false

/-- The number as a double; an integer is rounded. -/
def toDouble : Number → Extended double
  | int n => Extended.ofRatio double (n < 0) n.natAbs 1
  | float x => .finite x

/-- The number as a count of sixty-four bits, where it is an integer in that range. -/
def toCount? : Number → Option Nat
  | int n => if 0 ≤ n then some n.toNat else none
  | float _ => none

end Number

namespace Value

mutual

/-- Equal values; numbers are compared by `Number.same`. -/
def same : Value → Value → Bool
  | null, null => true
  | bool a, bool b => a == b
  | number a, number b => a.same b
  | string a, string b => a == b
  | array a, array b => sameItems a b
  | object a, object b => sameMembers a b
  | _, _ => false

/-- Equal items in equal places. -/
def sameItems : List Value → List Value → Bool
  | [], [] => true
  | a :: as, b :: bs => same a b && sameItems as bs
  | _, _ => false

/-- Equal keys with equal values in equal places. -/
def sameMembers : List (String × Value) → List (String × Value) → Bool
  | [], [] => true
  | (k, a) :: as, (l, b) :: bs => k == l && same a b && sameMembers as bs
  | _, _ => false

end

/-- The kind of a value, in a word. -/
def kind : Value → String
  | null => "null"
  | bool _ => "bool"
  | number _ => "number"
  | string _ => "string"
  | array _ => "array"
  | object _ => "object"

/-- The number of a value as a double. -/
def toDouble? : Value → Option (Extended double)
  | number n => some n.toDouble
  | _ => none

def toBool? : Value → Option Bool
  | bool b => some b
  | _ => none

def toString? : Value → Option String
  | string s => some s
  | _ => none

end Value

end ChatAssistant.Json
