import Wordbook.Schema.Pattern
import Wordbook.Uri

/-!
# Formats of texts

The formats that a schema can ask a text to have, by their names. A name that is
none of them asks for nothing.

* `Format.ofName?`: the format with a name;
* `Format.holdsOf`: whether a text has a format.
-/

namespace Wordbook

inductive Format where
  | date
  | time
  | dateTime
  | email
  | hostName
  | ipv4
  | ipv6
  | uri
  | uriReference
  | iri
  | iriReference
  | pointer
  | relativePointer
  | regex
  deriving DecidableEq, Repr

namespace Format

/-- The formats under their names. -/
def names : List (String × Format) :=
  [("date", date), ("time", time), ("date-time", dateTime), ("email", email),
   ("idn-email", email), ("hostname", hostName), ("ipv4", ipv4), ("ipv6", ipv6), ("uri", uri),
   ("uri-reference", uriReference), ("iri", iri), ("iri-reference", iriReference),
   ("json-pointer", pointer), ("relative-json-pointer", relativePointer), ("regex", regex)]

def ofName? (name : String) : Option Format := names.lookup name

def isLeapYear (year : Nat) : Bool := year % 4 == 0 && (year % 100 != 0 || year % 400 == 0)

def daysIn (year month : Nat) : Nat :=
  if month = 2 then if isLeapYear year then 29 else 28
  else if [4, 6, 9, 11].contains month then 30 else 31

/-- The numbers in a text that has digits where a form has zeros, and is otherwise like it. -/
def fields? (form : String) (t : List Char) : Option (List Nat) :=
  if form.length = t.length &&
      (form.toList.zip t).all (fun (f, c) => if f = '0' then Text.isDigit c else f == c) then
    (((form.toList.zip t).splitBy fun a b => a.1 == '0' && b.1 == '0').filter
      fun run => run.all (·.1 == '0')).mapM fun run => Text.decimal? (run.map Prod.snd)
  else none

def isDate (t : List Char) : Bool :=
  match fields? "0000-00-00" t with
  | some [year, month, day] =>
    1 ≤ month && month ≤ 12 && 1 ≤ day && day ≤ daysIn year month
  | _ => false

/-- The minutes that a time is ahead of that of the zero meridian. -/
def offset? (t : List Char) : Option Int :=
  match t with
  | ['Z'] | ['z'] => some 0
  | sign :: t =>
    match fields? "00:00" t with
    | some [hours, minutes] =>
      if 23 < hours || 59 < minutes then none
      else if sign = '+' then some (hours * 60 + minutes : Nat)
      else if sign = '-' then some (-(hours * 60 + minutes : Nat))
      else none
    | _ => none
  | [] => none

/-- What is behind the fraction of a second. -/
def behindFraction? : List Char → Option (List Char)
  | '.' :: t =>
    if (t.takeWhile Text.isDigit).isEmpty then none else some (t.dropWhile Text.isDigit)
  | t => some t

/-- A second of 60 is the last one of a day at the zero meridian. -/
def isTime (t : List Char) : Bool :=
  match fields? "00:00:00" (t.take 8), (behindFraction? (t.drop 8)).bind offset? with
  | some [hours, minutes, seconds], some offset =>
    hours ≤ 23 && minutes ≤ 59 && (seconds ≤ 59 ||
      (seconds == 60 && ((hours * 60 + minutes : Nat) - offset) % 1440 == 1439))
  | _, _ => false

def isDateTime (t : List Char) : Bool :=
  match t.drop 10 with
  | c :: rest => isDate (t.take 10) && (c == 'T' || c == 't') && isTime rest
  | [] => false

/-- The length that a label of a host name may have at most. -/
def maxLabel : Nat := 63

/-- The length that a host name may have at most. -/
def maxHostName : Nat := 253

def isLabel (t : List Char) : Bool :=
  !t.isEmpty && t.length ≤ maxLabel && t.all (fun c => c.isAlphanum || c == '-') &&
    t.head? != some '-' && t.getLast? != some '-'

def isHostName (t : List Char) : Bool :=
  t.length ≤ maxHostName && (Text.pieces '.' t).all isLabel

/-- The length that the name of a mailbox may have at most. -/
def maxMailbox : Nat := 64

def isMailboxChar (c : Char) : Bool :=
  c.isAlphanum || "!#$%&'*+-/=?^_`|~".toList.contains c || c == '\x7b' || c == '\x7d' ||
    0x80 ≤ c.toNat

def isMailbox (t : List Char) : Bool :=
  t.length ≤ maxMailbox &&
    (Text.pieces '.' t).all fun atom => !atom.isEmpty && atom.all isMailboxChar

def isEmail (t : List Char) : Bool :=
  match Text.cutAtLast (· == '@') t with
  | some (mailbox, _, host) => isMailbox mailbox && isHostName host
  | none => false

/-- Whether each tilde stands before a zero or a one. -/
def isEscaped : List Char → Bool
  | [] => true
  | '~' :: c :: t => (c == '0' || c == '1') && isEscaped t
  | c :: t => c != '~' && isEscaped t

def isPointer (t : List Char) : Bool := t.isEmpty || (t.head? == some '/' && isEscaped t)

def isRelativePointer (t : List Char) : Bool :=
  let levels := t.takeWhile Text.isDigit
  let rest := t.dropWhile Text.isDigit
  !levels.isEmpty && (levels.length == 1 || levels.head? != some '0') &&
    (rest == ['#'] || isPointer rest)

/-- Whether a text is a reference that names its scheme. -/
def isUri (script : Uri.Script) (t : List Char) : Bool :=
  ((Uri.ofText? script t).map fun u => u.scheme.isSome).getD false

/-- Whether a text has a format. -/
def holdsOf (t : List Char) : Format → Bool
  | date => isDate t
  | time => isTime t
  | dateTime => isDateTime t
  | email => isEmail t
  | hostName => isHostName t
  | ipv4 => Ipv4.isAddress t
  | ipv6 => Ipv6.isAddress t
  | uri => isUri .ascii t
  | uriReference => (Uri.ofText? .ascii t).isSome
  | iri => isUri .unicode t
  | iriReference => (Uri.ofText? .unicode t).isSome
  | pointer => isPointer t
  | relativePointer => isRelativePointer t
  | regex => (Pattern.ofText? t).isSome

end Format

end Wordbook
