import Wordbook.Json
import Wordbook.Text.Digit
import Wordbook.Text.Surrogate

/-!
# Reading JSON

The grammar of RFC 8259. White space is space, tab, line feed and carriage
return; nothing but white space may follow the value.

* `Json.read?`: any text in the grammar. What is well written but has no value
  reads as `unreadable`;
* `Json.readStrict?`: a text all of whose parts have a value, and which is not
  nested too deeply. Its value is normal.
-/

namespace Wordbook.Json

namespace Reader

open Text (isDigit digitValue hexValue?)

def isSpace (c : Char) : Bool := c == ' ' || c == '\n' || c == '\t' || c == '\r'

def skipSpace (t : List Char) : List Char := t.dropWhile isSpace

/-- A number as it is written. -/
structure Literal where
  negative : Bool
  whole : List Char
  fraction : Option (List Char)
  /-- The digits of the exponent, and whether it is negative. -/
  exponent : Option (Bool × List Char)

/-- The digits at the start of a text, at least one, and the rest. -/
def digits? (t : List Char) : Option (List Char × List Char) :=
  let ds := t.takeWhile isDigit
  if ds.isEmpty then none else some (ds, t.dropWhile isDigit)

def fraction? : List Char → Option (Option (List Char) × List Char)
  | '.' :: t => (digits? t).map fun (ds, t) => (some ds, t)
  | t => some (none, t)

def exponentDigits? (negative : Bool) (t : List Char) :
    Option (Option (Bool × List Char) × List Char) :=
  (digits? t).map fun (ds, t) => (some (negative, ds), t)

def exponent? : List Char → Option (Option (Bool × List Char) × List Char)
  | c :: t =>
    if c = 'e' || c = 'E' then
      match t with
      | '-' :: t => exponentDigits? true t
      | '+' :: t => exponentDigits? false t
      | t => exponentDigits? false t
    else some (none, c :: t)
  | [] => some (none, [])

/-- A number without its sign. A leading zero stands alone. -/
def unsigned? (negative : Bool) (t : List Char) : Option (Literal × List Char) := do
  let (whole, t) ← digits? t
  if whole.length > 1 && whole.head? = some '0' then none
  let (fraction, t) ← fraction? t
  let (exponent, t) ← exponent? t
  return (⟨negative, whole, fraction, exponent⟩, t)

def literal? : List Char → Option (Literal × List Char)
  | '-' :: t => unsigned? true t
  | t => unsigned? false t

/-- The greatest number of 64 bits. -/
def maxWord : Nat := UInt64.size - 1

/-- Adds digits to a number for as long as it stays within 64 bits; the number of digits added. -/
def addDigits (n : Nat) : List Char → Nat × Nat
  | [] => (n, 0)
  | c :: t =>
    let n' := n * 10 + digitValue c
    if n' ≤ maxWord then
      let (m, added) := addDigits n' t
      (m, added + 1)
    else (n, 0)

/-- The greatest exponent that is taken as it is. -/
def maxExponent : Nat := Nat.pow 2 31 - 1

def exponentValue (digits : List Char) : Nat :=
  digits.foldl (fun n c => n * 10 + digitValue c) 0

/-- The value of a number that is written with a fraction or an exponent, or in too many digits.
Digits beyond the first 64 bits count as zeros. -/
def Literal.double? (l : Literal) : Option Double :=
  let (n, used) := addDigits 0 l.whole
  let (n, places) := addDigits n (l.fraction.getD [])
  let shift : Int := (l.whole.length - used : Nat) - (places : Int)
  match l.exponent with
  | none => Double.read l.negative n shift
  | some (negative, ds) =>
    let e := exponentValue ds
    if e ≤ maxExponent then
      Double.read l.negative n (if negative then shift - e else shift + e)
    else if negative || n = 0 then some (Double.zero l.negative)
    else none

/-- The value of a number, if it is not beyond the greatest double. -/
def Literal.value? (l : Literal) : Option Number :=
  let (n, used) := addDigits 0 l.whole
  if l.fraction.isNone && l.exponent.isNone && used = l.whole.length &&
      (!l.negative || (0 < n && n ≤ Nat.pow 2 63)) then
    some (.whole (if l.negative then -n else n))
  else l.double?.map .double

/-! ## Texts -/

/-- What stands before the closing quote of a text, and what stands behind it. -/
def quoted? : List Char → Option (List Char × List Char)
  | [] => none
  | '"' :: t => some ([], t)
  | ['\\'] => none
  | '\\' :: c :: t => (quoted? t).map fun (body, t) => ('\\' :: c :: body, t)
  | c :: t => if c < ' ' then none else (quoted? t).map fun (body, t) => (c :: body, t)

/-- A piece of a text: a character, or an escaped code unit of UTF-16. -/
inductive Piece where
  | char (c : Char)
  | unit (u : Nat)
  deriving DecidableEq, Repr

def hexUnit? (a b c d : Char) : Option Nat := do
  return ((← hexValue? a) * 16 + (← hexValue? b)) * 256 + (← hexValue? c) * 16 + (← hexValue? d)

/-- The characters with a short escape. -/
def shortEscapes : List (Char × Char) :=
  [('"', '"'), ('\\', '\\'), ('/', '/'), ('b', '\x08'), ('f', '\x0c'), ('n', '\n'), ('r', '\r'),
   ('t', '\t')]

/-- The pieces of what stands between quotes. -/
def pieces? : List Char → Option (List Piece)
  | [] => some []
  | '\\' :: 'u' :: a :: b :: c :: d :: t => do
    let u ← hexUnit? a b c d
    return .unit u :: (← pieces? t)
  | '\\' :: c :: t => do
    let d ← shortEscapes.lookup c
    return .char d :: (← pieces? t)
  | c :: t => do
    return .char c :: (← pieces? t)

/-- The text of its pieces, unless some surrogate has no partner. -/
def join? : List Piece → Option (List Char)
  | [] => some []
  | .char c :: t => (join? t).map (c :: ·)
  | .unit u :: t =>
    if Text.isLeadSurrogate u then
      match t with
      | .unit v :: t =>
        if Text.isTrailSurrogate v then (join? t).map (Text.joinSurrogates u v :: ·) else none
      | _ => none
    else if Text.isTrailSurrogate u then none
    else (join? t).map (Char.ofNat u :: ·)

/-- The text that starts behind a quote, if it has a value, and what stands behind it. -/
def text? (t : List Char) : Option (Option String × List Char) := do
  let (body, t) ← quoted? t
  let pieces ← pieces? body
  return ((join? pieces).map String.ofList, t)

/-! ## Values -/

/-- What stands behind a word that a text starts with. -/
def word? (word t : List Char) : Option (List Char) :=
  if word.isPrefixOf t then some (t.drop word.length) else none

/-- The value of what is well written, if it has one. -/
def orUnreadable {α : Type} (value : α → Json) : Option α → Json
  | some a => value a
  | none => .unreadable

/-- A value that is neither an array nor an object. -/
def scalar? : List Char → Option (Json × List Char)
  | '"' :: t => (text? t).map fun (s, t) => (orUnreadable .string s, t)
  | 'n' :: t => (word? ['u', 'l', 'l'] t).map fun t => (.null, t)
  | 't' :: t => (word? ['r', 'u', 'e'] t).map fun t => (.bool true, t)
  | 'f' :: t => (word? ['a', 'l', 's', 'e'] t).map fun t => (.bool false, t)
  | t => (literal? t).map fun (l, t) => (orUnreadable .number l.value?, t)

/-- The key of a member and the colon behind it. -/
def key? (t : List Char) : Option (Option String × List Char) :=
  match skipSpace t with
  | '"' :: t => do
    let (key, t) ← text? t
    match skipSpace t with
    | ':' :: t => some (key, t)
    | _ => none
  | _ => none

/-- An object, unless some key has no value. -/
def object (readable : Bool) (members : List (String × Json)) : Json :=
  if readable then .object members else .unreadable

mutual

/-- A value and what stands behind it. The fuel bounds the calls below this one. -/
def value? : Nat → List Char → Option (Json × List Char)
  | 0, _ => none
  | fuel + 1, t =>
    match skipSpace t with
    | '[' :: t =>
      match skipSpace t with
      | ']' :: t => some (.array [], t)
      | _ => elements? fuel [] t
    | '{' :: t =>
      match skipSpace t with
      | '}' :: t => some (.object [], t)
      | _ => members? fuel true [] t
    | t => scalar? t

/-- The elements of an array behind those already read, which stand last first. -/
def elements? : Nat → List Json → List Char → Option (Json × List Char)
  | 0, _, _ => none
  | fuel + 1, done, t => do
    let (v, t) ← value? fuel t
    match skipSpace t with
    | ',' :: t => elements? fuel (v :: done) t
    | ']' :: t => some (.array (v :: done).reverse, t)
    | _ => none

/-- The members of an object behind those already read, which stand last first. -/
def members? : Nat → Bool → List (String × Json) → List Char → Option (Json × List Char)
  | 0, _, _, _ => none
  | fuel + 1, readable, done, t => do
    let (key, t) ← key? t
    let (v, t) ← value? fuel t
    let readable := readable && key.isSome
    let done := (key.getD "", v) :: done
    match skipSpace t with
    | ',' :: t => members? fuel readable done t
    | '}' :: t => some (object readable done.reverse, t)
    | _ => none

end

end Reader

/-- The value that a text holds. -/
def read? (t : List Char) : Option Json := do
  let (v, rest) ← Reader.value? (2 * t.length + 2) t
  if (Reader.skipSpace rest).isEmpty then some v else none

/-- The greatest depth of a value that is read strictly. -/
def maxDepth : Nat := 127

/-- The value that a text holds, if every part of it has one and it is not nested too deeply. -/
def readStrict? (t : List Char) : Option Json := do
  let v ← read? t
  if v.isReadable && v.depth ≤ maxDepth then some v.normal else none

end Wordbook.Json
