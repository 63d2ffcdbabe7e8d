import Wordbook.Text.Digit
import Wordbook.Text.Split

/-!
# URI references

URI references as RFC 3986 writes them, and what a reference means that stands
in a document with a URI of its own.

* `Uri.ofText?`: the parts of a reference, if it is well formed;
* `Uri.resolve`: the URI that a reference stands for;
* `Ipv4.isAddress`, `Ipv6.isAddress`: the forms of addresses.
-/

namespace Wordbook

/-- Whether a text is a number up to 255 without a leading zero. -/
def Ipv4.isPart (t : List Char) : Bool :=
  match Text.decimal? t with
  | some n => n ≤ 255 && (t.length == 1 || t.head? != some '0')
  | none => false

def Ipv4.isAddress (t : List Char) : Bool :=
  let parts := Text.pieces '.' t
  parts.length == 4 && parts.all isPart

namespace Ipv6

/-- The groups of 16 bits that the text between two colons stands for. -/
def groupsOf (isLast : Bool) (t : List Char) : Option Nat :=
  if isLast && Ipv4.isAddress t then some 2
  else if t.length ≤ 4 && (Text.hexadecimal? t).isSome then some 1
  else none

/-- The groups of the texts between colons, the last of which may be an address of the fourth
version. -/
def count? (mayEndInIpv4 : Bool) : List (List Char) → Option Nat
  | [] => some 0
  | [t] => groupsOf mayEndInIpv4 t
  | t :: ts => do return (← groupsOf false t) + (← count? mayEndInIpv4 ts)

/-- The groups of what stands on one side of a double colon. -/
def side? (mayEndInIpv4 : Bool) (t : List Char) : Option Nat :=
  if t.isEmpty then some 0 else count? mayEndInIpv4 (Text.pieces ':' t)

/-- What stands before and behind the first double colon. -/
def atDoubleColon : List Char → Option (List Char × List Char)
  | ':' :: ':' :: t => some ([], t)
  | c :: t => (atDoubleColon t).map fun (before, after) => (c :: before, after)
  | [] => none

def isAddress (t : List Char) : Bool :=
  match atDoubleColon t with
  | none => side? true t == some 8
  | some (before, after) =>
    match side? false before, side? true after with
    | some m, some n => m + n ≤ 7
    | _, _ => false

end Ipv6

/-- A reference, taken apart. -/
structure Uri where
  scheme : Option (List Char)
  authority : Option (List Char)
  path : List Char
  query : Option (List Char)
  fragment : Option (List Char)
  deriving DecidableEq, Repr

namespace Uri

/-- Whether characters beyond ASCII may stand for themselves. -/
inductive Script where
  | ascii
  | unicode
  deriving DecidableEq, Repr

def isUnreserved (c : Char) : Bool := c.isAlphanum || ['-', '.', '_', '~'].contains c

def isSubDelimiter (c : Char) : Bool :=
  ['!', '$', '&', '\'', '(', ')', '*', '+', ',', ';', '='].contains c

/-- The characters beyond ASCII that may stand for themselves, but for private ones. -/
def isBeyond (c : Char) : Bool :=
  let n := c.toNat
  (0xA0 ≤ n && n < 0xE000) || (0xF900 ≤ n && n ≤ 0xFDCF) || (0xFDF0 ≤ n && n ≤ 0xFFEF) ||
    (0x10000 ≤ n && n < 0xF0000 && n % 0x10000 ≤ 0xFFFD)

def isPrivate (c : Char) : Bool :=
  let n := c.toNat
  (0xE000 ≤ n && n ≤ 0xF8FF) || (0xF0000 ≤ n && n % 0x10000 ≤ 0xFFFD)

/-- Whether a text holds but some characters and bytes written with a percent sign. -/
def isWritten (allowed : Char → Bool) : List Char → Bool
  | [] => true
  | '%' :: a :: b :: t => Text.isHexDigit a && Text.isHexDigit b && isWritten allowed t
  | c :: t => c != '%' && allowed c && isWritten allowed t

variable (script : Script)

def isPlain (c : Char) : Bool :=
  isUnreserved c || isSubDelimiter c || (script = .unicode && isBeyond c)

def isPathChar (c : Char) : Bool := isPlain script c || [':', '@', '/'].contains c

def isQueryChar (c : Char) : Bool :=
  isPathChar script c || c == '?' || (script = .unicode && isPrivate c)

def isFragmentChar (c : Char) : Bool := isPathChar script c || c == '?'

/-- Whether a text is an address between brackets. -/
def isLiteral (t : List Char) : Bool :=
  match t with
  | 'v' :: rest | 'V' :: rest =>
    let version := rest.takeWhile (· != '.')
    let address := (rest.dropWhile (· != '.')).drop 1
    !version.isEmpty && version.all Text.isHexDigit && !address.isEmpty &&
      address.all fun c => isUnreserved c || isSubDelimiter c || c == ':'
  | t => Ipv6.isAddress t

/-- A host, perhaps with a colon and a number behind it. -/
def isHost (t : List Char) : Bool :=
  let isNumber (t : List Char) : Bool :=
    match t with
    | [] => true
    | ':' :: digits => digits.all Text.isDigit
    | _ => false
  match t with
  | '[' :: t =>
    isLiteral (t.takeWhile (· != ']')) &&
      match t.dropWhile (· != ']') with
      | _ :: rest => isNumber rest
      | [] => false
  | t => isWritten (isPlain script) (t.takeWhile (· != ':')) && isNumber (t.dropWhile (· != ':'))

def isAuthority (t : List Char) : Bool :=
  match Text.cutAtLast (· == '@') t with
  | some (user, _, host) =>
    isWritten (fun c => isPlain script c || c == ':') user && isHost script host
  | none => isHost script t

def isScheme (t : List Char) : Bool :=
  match t with
  | c :: t => c.isAlpha && t.all fun c => c.isAlphanum || ['+', '-', '.'].contains c
  | [] => false

/-- Whether the parts of a reference are well formed. -/
def isWellFormed (u : Uri) : Bool :=
  u.scheme.all isScheme && u.authority.all (isAuthority script) &&
    isWritten (isPathChar script) u.path && u.query.all (isWritten (isQueryChar script)) &&
    u.fragment.all (isWritten (isFragmentChar script))

/-- A text cut at the first of some characters, if there is one: what stands before and behind. -/
def cutAt (c : Char) (t : List Char) : List Char × Option (List Char) :=
  match Text.cutAtFirst (· == c) t with
  | some (before, _, after) => (before, some after)
  | none => (t, none)

/-- The parts of a text, well formed or not. A colon before the first slash ends a scheme. -/
def split (t : List Char) : Uri :=
  let (t, fragment) := cutAt '#' t
  let (t, query) := cutAt '?' t
  let (scheme, t) :=
    match Text.cutAtFirst (fun c => c == ':' || c == '/') t with
    | some (scheme, ':', t) => (some scheme, t)
    | _ => (none, t)
  match t with
  | '/' :: '/' :: t =>
    ⟨scheme, some (t.takeWhile (· != '/')), t.dropWhile (· != '/'), query, fragment⟩
  | path => ⟨scheme, none, path, query, fragment⟩

/-- The parts of a text that is a reference. -/
def ofText? (t : List Char) : Option Uri :=
  let u := split t
  if isWellFormed script u then some u else none

/-! ## Resolution -/

def toText (u : Uri) : List Char :=
  (match u.scheme with
    | some scheme => scheme ++ [':']
    | none => []) ++
  (match u.authority with
    | some authority => '/' :: '/' :: authority
    | none => []) ++
  u.path ++
  (match u.query with
    | some query => '?' :: query
    | none => []) ++
  match u.fragment with
    | some fragment => '#' :: fragment
    | none => []

/-- The segments of a path without the dots that stand for a segment or take one back. -/
def withoutDots (done : List (List Char)) : List (List Char) → List (List Char)
  | [] => done.reverse
  | ['.'] :: [] => ([] :: done).reverse
  | ['.', '.'] :: [] => ([] :: done.drop 1).reverse
  | ['.'] :: t => withoutDots done t
  | ['.', '.'] :: t => withoutDots (done.drop 1) t
  | segment :: t => withoutDots (segment :: done) t

/-- A path without dots. -/
def normalPath (path : List Char) : List Char :=
  match path with
  | '/' :: rest => '/' :: ['/'].intercalate (withoutDots [] (Text.pieces '/' rest))
  | path => path

/-- The path of a reference without a slash at its start, next to the path of a document. -/
def merge (base : Uri) (path : List Char) : List Char :=
  if base.authority.isSome && base.path.isEmpty then '/' :: path
  else
    match Text.cutAtLast (· == '/') base.path with
    | some (before, _, _) => before ++ '/' :: path
    | none => path

/-- The URI that a reference stands for in a document. -/
def resolve (base u : Uri) : Uri :=
  if u.scheme.isSome then { u with path := normalPath u.path }
  else if u.authority.isSome then { u with scheme := base.scheme, path := normalPath u.path }
  else if u.path.isEmpty then
    ⟨base.scheme, base.authority, base.path, u.query <|> base.query, u.fragment⟩
  else
    let path := if u.path.head? = some '/' then u.path else merge base u.path
    ⟨base.scheme, base.authority, normalPath path, u.query, u.fragment⟩

end Uri

end Wordbook
