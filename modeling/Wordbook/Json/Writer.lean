import Wordbook.Json

/-!
# Writing JSON

Values in one line (`Json.compact`) and over several lines, each level indented
by two spaces (`Json.pretty`). Only quotes, backslashes and control characters
are escaped.
-/

namespace Wordbook.Json

namespace Writer

def hexDigit (n : Nat) : Char := ("0123456789abcdef".toList).getD n '0'

/-- A character of a text between quotes. -/
def escape (c : Char) : List Char :=
  if c = '"' then ['\\', '"']
  else if c = '\\' then ['\\', '\\']
  else if c = '\x08' then ['\\', 'b']
  else if c = '\x0c' then ['\\', 'f']
  else if c = '\n' then ['\\', 'n']
  else if c = '\r' then ['\\', 'r']
  else if c = '\t' then ['\\', 't']
  else if c < ' ' then ['\\', 'u', '0', '0', hexDigit (c.toNat / 16), hexDigit (c.toNat % 16)]
  else [c]

def text (s : String) : List Char := '"' :: s.toList.flatMap escape ++ ['"']

def number : Number → List Char
  | .whole n => (toString n).toList
  | .double d => d.text.toList

/-- A value that is neither an array nor an object. -/
def scalar : Json → List Char
  | bool true => "true".toList
  | bool false => "false".toList
  | .number n => number n
  | string s => text s
  | _ => "null".toList

/-- A line end and the indentation of a level. -/
def newline (level : Nat) : List Char := '\n' :: List.replicate (2 * level) ' '

mutual

def compact : Json → List Char
  | array vs => '[' :: compactAll vs ++ [']']
  | object ms => '\x7b' :: compactMembers ms ++ ['\x7d']
  | v => scalar v

def compactAll : List Json → List Char
  | [] => []
  | [v] => compact v
  | v :: vs => compact v ++ ',' :: compactAll vs

def compactMembers : List (String × Json) → List Char
  | [] => []
  | [(k, v)] => text k ++ ':' :: compact v
  | (k, v) :: ms => text k ++ ':' :: compact v ++ ',' :: compactMembers ms

end

mutual

def pretty (level : Nat) : Json → List Char
  | array [] => ['[', ']']
  | array (v :: vs) =>
    '[' :: newline (level + 1) ++ pretty (level + 1) v ++ prettyAll (level + 1) vs ++
      newline level ++ [']']
  | object [] => ['\x7b', '\x7d']
  | object ((k, v) :: ms) =>
    '\x7b' :: newline (level + 1) ++ text k ++ ':' :: ' ' :: pretty (level + 1) v ++
      prettyMembers (level + 1) ms ++ newline level ++ ['\x7d']
  | v => scalar v

/-- The elements behind the first one. -/
def prettyAll (level : Nat) : List Json → List Char
  | [] => []
  | v :: vs => ',' :: newline level ++ pretty level v ++ prettyAll level vs

/-- The members behind the first one. -/
def prettyMembers (level : Nat) : List (String × Json) → List Char
  | [] => []
  | (k, v) :: ms =>
    ',' :: newline level ++ text k ++ ':' :: ' ' :: pretty level v ++ prettyMembers level ms

end

end Writer

/-- A value in one line. -/
def compact (v : Json) : String := String.ofList (Writer.compact v)

/-- A value over several lines. -/
def pretty (v : Json) : String := String.ofList (Writer.pretty 0 v)

end Wordbook.Json
