import Wordbook.Json

/-!
# The values of JSON values

What two values that are written in different ways have in common: `1` and `1.0`
are the same number, and both are whole.

* `Json.same`: whether two values are the same;
* `Json.Kind`: the kinds of values, a whole number being a number too.
-/

namespace Wordbook.Json

namespace Number

/-- The value of a number as a fraction. -/
def value : Number → Int × Nat
  | whole n => (n, 1)
  | double d => d.value

def isWhole : Number → Bool
  | whole _ => true
  | double d => d.isWhole

/-- Whether a number is less than another. -/
def less (a b : Number) : Bool :=
  let (m, d) := a.value
  let (n, e) := b.value
  m * e < n * d

/-- Whether two numbers have the same value. -/
def same (a b : Number) : Bool := !a.less b && !b.less a

def isNegativeZero : Number → Bool
  | whole _ => false
  | double d => d.negative && d.isZero

/-- Whether two numbers have the same value and, if it is zero, the same sign. -/
def sameSigned (a b : Number) : Bool := a.same b && a.isNegativeZero == b.isNegativeZero

/-- The double nearest to a number. -/
def toDouble : Number → Double
  | whole n => (Double.ofRatio (n < 0) n.natAbs 1).getD (Double.zero false)
  | double d => d

/-- Whether a number is a multiple of another. Both count as doubles. -/
def isMultipleOf (n factor : Number) : Bool := n.toDouble.isMultipleOf factor.toDouble

end Number

mutual

/-- Whether two normal values are the same but for their numbers, which are compared by `eq`. -/
def sameBy (eq : Number → Number → Bool) : Json → Json → Bool
  | null, null => true
  | bool a, bool b => a == b
  | number a, number b => eq a b
  | string a, string b => a == b
  | array as, array bs => sameAllBy eq as bs
  | object ms, object ns => sameMembersBy eq ms ns
  | _, _ => false

def sameAllBy (eq : Number → Number → Bool) : List Json → List Json → Bool
  | [], [] => true
  | a :: as, b :: bs => sameBy eq a b && sameAllBy eq as bs
  | _, _ => false

def sameMembersBy (eq : Number → Number → Bool) :
    List (String × Json) → List (String × Json) → Bool
  | [], [] => true
  | (j, a) :: ms, (k, b) :: ns => j == k && sameBy eq a b && sameMembersBy eq ms ns
  | _, _ => false

end

/-- Whether two normal values are the same. -/
def same (v w : Json) : Bool := sameBy Number.same v w

/-- Whether no two of some normal values are the same. -/
def allDistinctBy (eq : Number → Number → Bool) : List Json → Bool
  | [] => true
  | v :: vs => !vs.any (sameBy eq v) && allDistinctBy eq vs

/-- The number of values up to which zeros of either sign are the same. -/
def maxPlainCount : Nat := 15

/-- Whether no two of some normal values are the same. Among many, a negative zero differs from
zero. -/
def allDistinct (vs : List Json) : Bool :=
  allDistinctBy (if vs.length ≤ maxPlainCount then Number.same else Number.sameSigned) vs

/-- The kinds of values, in the order of their names. -/
inductive Kind where
  | array
  | boolean
  | integer
  | null
  | number
  | object
  | string
  deriving DecidableEq, Repr

namespace Kind

def name : Kind → String
  | array => "array"
  | boolean => "boolean"
  | integer => "integer"
  | null => "null"
  | number => "number"
  | object => "object"
  | string => "string"

def all : List Kind := [array, boolean, integer, null, number, object, string]

def ofName? (name : String) : Option Kind := all.find? (·.name == name)

end Kind

/-- Whether a value is of a kind. -/
def isOf : Json → Kind → Bool
  | array _, .array => true
  | bool _, .boolean => true
  | number n, .integer => n.isWhole
  | null, .null => true
  | number _, .number => true
  | object _, .object => true
  | string _, .string => true
  | _, _ => false

end Wordbook.Json
