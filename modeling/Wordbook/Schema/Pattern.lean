import Wordbook.Text.Alphanumeric
import Wordbook.Text.Digit

/-!
# Patterns

Regular expressions as schemas hold them, with classes of characters, counted
repetition, word edges and views ahead and back, and without references to what
a group has matched.

* `Pattern.ofText?`: the pattern that a text describes;
* `Pattern.ends`: where the matches of a pattern end that start at a place;
* `Pattern.occursIn`: whether some part of a text matches.
-/

namespace Wordbook

/-- A set of characters: some ranges, and all that is outside some other ranges. -/
structure CharSet where
  negated : Bool
  ranges : List (Nat × Nat)
  outside : List (List (Nat × Nat))
  deriving DecidableEq, Repr

namespace CharSet

def ofRanges (ranges : List (Nat × Nat)) : CharSet := ⟨false, ranges, []⟩

def complement (s : CharSet) : CharSet := { s with negated := !s.negated }

def single (c : Char) : CharSet := ofRanges [(c.toNat, c.toNat)]

def contains (s : CharSet) (c : Char) : Bool :=
  s.negated != (Text.inRanges s.ranges c || s.outside.any fun ranges => !Text.inRanges ranges c)

/-- Some ranges, or what is outside them. -/
def part (negated : Bool) (ranges : List (Nat × Nat)) : CharSet :=
  if negated then ⟨false, [], [ranges]⟩ else ofRanges ranges

/-- What one of two parts of a class holds. -/
def union (s t : CharSet) : CharSet := ⟨false, s.ranges ++ t.ranges, s.outside ++ t.outside⟩

def digits : List (Nat × Nat) := [(0x30, 0x39)]

def wordChars : List (Nat × Nat) := [(0x30, 0x39), (0x41, 0x5A), (0x5F, 0x5F), (0x61, 0x7A)]

def spaces : List (Nat × Nat) :=
  [(0x09, 0x0D), (0x20, 0x20), (0xA0, 0xA0), (0x2003, 0x2003), (0x2029, 0x2029), (0xFEFF, 0xFEFF)]

/-- Every character but a line feed. -/
def anyInLine : CharSet := (single '\n').complement

end CharSet

inductive Pattern where
  | one (set : CharSet)
  /-- The start of the text. -/
  | start
  /-- The end of the text. -/
  | finish
  /-- A place with a character of a word on just one side, or any other place. -/
  | edge (isEdge : Bool)
  | sequence (parts : List Pattern)
  | either (options : List Pattern)
  /-- At least `least` times and at most `most` times. -/
  | repeated (least : Nat) (most : Option Nat) (part : Pattern)
  /-- A place where a match begins, or with `behind` one where it ends, if it is `wanted`. -/
  | view (behind wanted : Bool) (part : Pattern)

namespace Pattern

/-! ## Matches -/

def isWordChar (c : Char) : Bool := Text.isAlphanumeric c || c == '_'

/-- Whether just one of the characters at a place belongs to a word. -/
def isEdgeAt (t : List Char) (place : Nat) : Bool :=
  let isWord (c : Option Char) := (c.map isWordChar).getD false
  isWord (if place = 0 then none else t[place - 1]?) != isWord t[place]?

/-- The places that lie one step behind some places. -/
def advance (step : Nat → List Nat) (places : List Nat) : List Nat :=
  (places.flatMap step).eraseDups

/-- The places that lie a number of steps behind some places. -/
def advanceTimes (step : Nat → List Nat) : Nat → List Nat → List Nat
  | 0, places => places
  | times + 1, places => advanceTimes step times (advance step places)

/-- The places that lie some steps behind some places, or none, and at most a number. -/
def spread (step : Nat → List Nat) : Nat → List Nat → List Nat
  | 0, places => places
  | times + 1, places => spread step times (places ++ places.flatMap step).eraseDups

mutual

/-- The places in a text where a match that starts at a place ends. -/
def ends (t : List Char) : Pattern → Nat → List Nat
  | one set, place =>
    match t[place]? with
    | some c => if set.contains c then [place + 1] else []
    | none => []
  | start, place => if place = 0 then [place] else []
  | finish, place => if place = t.length then [place] else []
  | edge isEdge, place => if isEdgeAt t place = isEdge then [place] else []
  | sequence parts, place => endsOfSequence t parts [place]
  | either options, place => (endsOfOptions t options place).eraseDups
  | repeated least most part, place =>
    let further := match most with
      | some most => min (most - least) (t.length + 1)
      | none => t.length + 1
    spread (fun p => ends t part p) further (advanceTimes (fun p => ends t part p) least [place])
  | view behind wanted part, place =>
    let found :=
      if behind then
        (List.range (place + 1)).any fun p => (ends t part p).contains place
      else !(ends t part place).isEmpty
    if found = wanted then [place] else []

def endsOfSequence (t : List Char) : List Pattern → List Nat → List Nat
  | [], places => places
  | part :: parts, places => endsOfSequence t parts (advance (fun p => ends t part p) places)

def endsOfOptions (t : List Char) : List Pattern → Nat → List Nat
  | [], _ => []
  | option :: options, place => ends t option place ++ endsOfOptions t options place

end

/-- Whether some part of a text matches. -/
def occursIn (p : Pattern) (t : List Char) : Bool :=
  (List.range (t.length + 1)).any fun place => !(p.ends t place).isEmpty

/-! ## Reading -/

namespace Reader

/-- What follows a backslash: a character, or a set of characters. -/
inductive Escape where
  | char (c : Char)
  | set (s : CharSet)

/-- The character with a number that some hexadecimal digits write, and what stands behind them. -/
def coded? (count : Nat) (t : List Char) : Option (Char × List Char) := do
  let n ← if (t.take count).length = count then Text.hexadecimal? (t.take count) else none
  if n.isValidChar then some (Char.ofNat n, t.drop count) else none

/-- The same with the digits between braces. -/
def braced? (t : List Char) : Option (Char × List Char) := do
  let n ← Text.hexadecimal? (t.takeWhile (· != '\x7d'))
  if n.isValidChar ∧ (t.dropWhile (· != '\x7d')).head? = some '\x7d' then
    some (Char.ofNat n, (t.dropWhile (· != '\x7d')).drop 1)
  else none

/-- The letters that stand for a control character. -/
def controls : List (Char × Char) :=
  [('a', '\x07'), ('f', '\x0c'), ('n', '\n'), ('r', '\r'), ('t', '\t'), ('v', '\x0b')]

/-- The letters that stand for a set of characters. A capital stands for what is outside it. -/
def classes : List (Char × List (Nat × Nat)) :=
  [('d', CharSet.digits), ('w', CharSet.wordChars), ('s', CharSet.spaces)]

/-- What stands behind a backslash in and outside of classes. -/
def escape? : List Char → Option (Escape × List Char)
  | [] => none
  | 'x' :: '\x7b' :: t => (braced? t).map fun (c, t) => (.char c, t)
  | 'u' :: '\x7b' :: t => (braced? t).map fun (c, t) => (.char c, t)
  | 'x' :: t => (coded? 2 t).map fun (c, t) => (.char c, t)
  | 'u' :: t => (coded? 4 t).map fun (c, t) => (.char c, t)
  | 'U' :: t => (coded? 8 t).map fun (c, t) => (.char c, t)
  | 'c' :: c :: t => if c.isAlpha then some (.char (Char.ofNat (c.toNat % 32)), t) else none
  | c :: t =>
    match controls.lookup c, classes.lookup c, classes.lookup c.toLower with
    | some d, _, _ => some (.char d, t)
    | none, some ranges, _ => some (.set (CharSet.part false ranges), t)
    | none, none, some ranges => some (.set (CharSet.part true ranges), t)
    | none, none, none =>
      if c.toNat < 0x80 ∧ !c.isAlphanum ∧ c ≠ '<' ∧ c ≠ '>' then some (.char c, t) else none

/-- One character or set of a class. -/
def classItem? : List Char → Option (Escape × List Char)
  | '\\' :: t => escape? t
  | '[' :: _ => none
  | c :: t => some (.char c, t)
  | [] => none

/-- A class whose first items are given, behind its opening bracket. -/
def class? (done : CharSet) : Nat → List Char → Option (CharSet × List Char)
  | 0, _ => none
  | fuel + 1, t => do
    let (item, t) ← classItem? t
    let (set, t) ← match item, t with
      | .char low, '-' :: d :: t =>
        if d = ']' then some (CharSet.single low, '-' :: d :: t)
        else
          match classItem? (d :: t) with
          | some (.char high, t) =>
            if low.toNat ≤ high.toNat then some (CharSet.ofRanges [(low.toNat, high.toNat)], t)
            else none
          | _ => none
      | .char c, t => some (CharSet.single c, t)
      | .set s, t => some (s, t)
    match t with
    | ']' :: t => some (done.union set, t)
    | t => class? (done.union set) fuel t

/-- The class behind an opening bracket. A bracket that comes first is one of its characters. -/
def charClass? (t : List Char) : Option (CharSet × List Char) :=
  match t with
  | '^' :: t => (class? (.ofRanges []) t.length t).map fun (s, t) => (s.complement, t)
  | t => class? (.ofRanges []) t.length t

/-- The bounds of a repetition behind an opening brace. -/
def bounds? (t : List Char) : Option ((Nat × Option Nat) × List Char) := do
  let body := t.takeWhile (· != '\x7d')
  let rest ← match t.dropWhile (· != '\x7d') with
    | _ :: rest => some rest
    | [] => none
  let least ← Text.decimal? (body.takeWhile (· != ','))
  match body.dropWhile (· != ',') with
  | [] => some ((least, some least), rest)
  | [_] => some ((least, none), rest)
  | _ :: most => do
    let most ← Text.decimal? most
    if least ≤ most then some ((least, some most), rest) else none

/-- The bounds of the repetition that a text starts with. -/
def repetition? : List Char → Option (Option ((Nat × Option Nat) × List Char))
  | '*' :: t => some (some ((0, none), t))
  | '+' :: t => some (some ((1, none), t))
  | '?' :: t => some (some ((0, some 1), t))
  | '\x7b' :: t => (bounds? t).map some
  | _ => some none

/-- A part with all the repetitions behind it. Whether one is eager is of no account. -/
def repeated? (part : Pattern) : Nat → List Char → Option (Pattern × List Char)
  | 0, _ => none
  | fuel + 1, t => do
    match ← repetition? t with
    | none => some (part, t)
    | some ((least, most), t) =>
      let t := if t.head? = some '?' then t.drop 1 else t
      repeated? (.repeated least most part) fuel t

/-- What is behind the name of a group. -/
def behindName? (t : List Char) : Option (List Char) :=
  let name := t.takeWhile (· != '>')
  let named := name.all fun c => Text.isAlphanumeric c || c == '_' || c == '.' || c == '['
    || c == ']'
  match name, t.dropWhile (· != '>') with
  | c :: _, _ :: rest => if named && (c.isAlpha || c == '_') then some rest else none
  | _, _ => none

/-- What a group adds to its body, and what stands behind its opening. -/
def opening? : List Char → Option ((Pattern → Pattern) × List Char)
  | '?' :: ':' :: t => some (id, t)
  | '?' :: '=' :: t => some (.view false true, t)
  | '?' :: '!' :: t => some (.view false false, t)
  | '?' :: '<' :: '=' :: t => some (.view true true, t)
  | '?' :: '<' :: '!' :: t => some (.view true false, t)
  | '?' :: '<' :: t => (behindName? t).map (id, ·)
  | '?' :: 'P' :: '<' :: t => (behindName? t).map (id, ·)
  | '?' :: _ => none
  | t => some (id, t)

/-- A part that holds no other. -/
def simple? : List Char → Option (Pattern × List Char)
  | '\\' :: 'b' :: t => some (.edge true, t)
  | '\\' :: 'B' :: t => some (.edge false, t)
  | '\\' :: 'A' :: t => some (.start, t)
  | '\\' :: 'z' :: t => some (.finish, t)
  | '\\' :: t => do
    match ← escape? t with
    | (.char c, t) => some (.one (.single c), t)
    | (.set s, t) => some (.one s, t)
  | '[' :: t => (charClass? t).map fun (s, t) => (.one s, t)
  | '.' :: t => some (.one .anyInLine, t)
  | '^' :: t => some (.start, t)
  | '$' :: t => some (.finish, t)
  | c :: t => if ['*', '+', '?', '\x7b'].contains c then none else some (.one (.single c), t)
  | [] => none

mutual

/-- The options up to the end of a group or of the text. The fuel bounds the calls below. -/
def options? : Nat → List Char → Option (List Pattern × List Char)
  | 0, _ => none
  | fuel + 1, t => do
    let (parts, t) ← parts? fuel t
    match t with
    | '|' :: t =>
      let (options, t) ← options? fuel t
      some (.sequence parts :: options, t)
    | t => some ([.sequence parts], t)

/-- The parts up to the end of an option. -/
def parts? : Nat → List Char → Option (List Pattern × List Char)
  | 0, _ => none
  | fuel + 1, t =>
    match t with
    | [] => some ([], [])
    | '|' :: t => some ([], '|' :: t)
    | ')' :: t => some ([], ')' :: t)
    | t => do
      let (part, t) ← part? fuel t
      let (part, t) ← repeated? part (t.length + 1) t
      let (parts, t) ← parts? fuel t
      some (part :: parts, t)

def part? : Nat → List Char → Option (Pattern × List Char)
  | 0, _ => none
  | fuel + 1, t =>
    match t with
    | '(' :: t => do
      let (wrap, t) ← opening? t
      let (options, t) ← options? fuel t
      match t with
      | ')' :: t => some (wrap (.either options), t)
      | _ => none
    | t => simple? t

end

end Reader

/-- The pattern that a text describes, if it is well formed. -/
def ofText? (t : List Char) : Option Pattern := do
  let (options, rest) ← Reader.options? (3 * t.length + 3) t
  if rest.isEmpty then some (.either options) else none

end Pattern

end Wordbook
