import Wordbook.Json.Double
import Wordbook.Order.SortedMap

/-!
# JSON values

A JSON value as it is read: the members of an object in the order in which they
are written, repeated keys included.

* `Json.normal`: the same value with its keys in ascending order, each once;
* `Json.depth`: how many arrays and objects stand one inside the other.
-/

namespace Wordbook

/-- A number. A whole number between -2⁶³ and 2⁶⁴ that is written as one is kept exactly. -/
inductive Json.Number where
  | whole (n : Int)
  | double (d : Double)
  deriving DecidableEq, Repr

inductive Json where
  | null
  | bool (b : Bool)
  | number (n : Json.Number)
  | string (s : String)
  | array (elements : List Json)
  | object (members : List (String × Json))
  /-- What is well written and yet has no value: a number beyond the greatest double, and a text,
  or an object with a key, that holds half of a surrogate pair. -/
  | unreadable
  deriving Repr, BEq, Inhabited

namespace Json

def whole (n : Int) : Json := .number (.whole n)

mutual

/-- The number of arrays and objects around the deepest value. -/
def depth : Json → Nat
  | array vs => depthAll vs + 1
  | object ms => depthMembers ms + 1
  | _ => 0

def depthAll : List Json → Nat
  | [] => 0
  | v :: vs => max v.depth (depthAll vs)

def depthMembers : List (String × Json) → Nat
  | [] => 0
  | (_, v) :: ms => max v.depth (depthMembers ms)

end

mutual

/-- The number of values in a value, itself included. -/
def size : Json → Nat
  | array vs => sizeAll vs + 1
  | object ms => sizeMembers ms + 1
  | _ => 1

def sizeAll : List Json → Nat
  | [] => 0
  | v :: vs => v.size + sizeAll vs

def sizeMembers : List (String × Json) → Nat
  | [] => 0
  | (_, v) :: ms => v.size + sizeMembers ms

end

mutual

/-- Whether every part of a value has a value. -/
def isReadable : Json → Bool
  | array vs => allReadable vs
  | object ms => membersReadable ms
  | unreadable => false
  | _ => true

def allReadable : List Json → Bool
  | [] => true
  | v :: vs => v.isReadable && allReadable vs

def membersReadable : List (String × Json) → Bool
  | [] => true
  | (_, v) :: ms => v.isReadable && membersReadable ms

end

mutual

/-- The value with the keys of each object in ascending order. Of members with the same key the
last one counts. -/
def normal : Json → Json
  | array vs => array (normalAll vs)
  | object ms => object (SortedMap.ofList (normalMembers ms)).entries
  | v => v

def normalAll : List Json → List Json
  | [] => []
  | v :: vs => v.normal :: normalAll vs

def normalMembers : List (String × Json) → List (String × Json)
  | [] => []
  | (k, v) :: ms => (k, v.normal) :: normalMembers ms

end

/-! ## Access -/

/-- The value of a member of an object. -/
def member? (key : String) : Json → Option Json
  | object ms => ms.lookup key
  | _ => none

def text? : Json → Option String
  | string s => some s
  | _ => none

def bool? : Json → Option Bool
  | bool b => some b
  | _ => none

def elements? : Json → Option (List Json)
  | array vs => some vs
  | _ => none

/-- A whole number that is written without fraction and exponent, within bounds. -/
def wholeWithin? (low high : Int) : Json → Option Int
  | number (.whole n) => if low ≤ n && n ≤ high then some n else none
  | _ => none

/-- A signed number of 64 bits. -/
def int64? (v : Json) : Option Int64 :=
  (v.wholeWithin? Int64.minValue.toInt Int64.maxValue.toInt).map Int64.ofInt

/-- A count: an unsigned number of 64 bits. -/
def count? (v : Json) : Option Nat := (v.wholeWithin? 0 (UInt64.size - 1 : Nat)).map Int.toNat

/-- A text of exactly one character. -/
def char? : Json → Option Char
  | string s =>
    match s.toList with
    | [c] => some c
    | _ => none
  | _ => none

end Json

end Wordbook
