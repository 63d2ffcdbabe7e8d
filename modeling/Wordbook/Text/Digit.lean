/-!
# Digits

The decimal and the hexadecimal digits of ASCII, and numbers written with them.
-/

namespace Wordbook.Text

def isDigit (c : Char) : Bool := '0' ≤ c && c ≤ '9'

def digitValue (c : Char) : Nat := c.toNat - '0'.toNat

def hexValue? (c : Char) : Option Nat :=
  if isDigit c then some (digitValue c)
  else if 'a' ≤ c && c ≤ 'f' then some (c.toNat - 'a'.toNat + 10)
  else if 'A' ≤ c && c ≤ 'F' then some (c.toNat - 'A'.toNat + 10)
  else none

def isHexDigit (c : Char) : Bool := (hexValue? c).isSome

/-- The number of some decimal digits, at least one. -/
def decimal? (t : List Char) : Option Nat :=
  if t.isEmpty || !t.all isDigit then none
  else some (t.foldl (fun n c => n * 10 + digitValue c) 0)

/-- The number of some hexadecimal digits, at least one. -/
def hexadecimal? (t : List Char) : Option Nat :=
  if t.isEmpty then none
  else t.foldlM (fun n c => (hexValue? c).map (n * 16 + ·)) 0

end Wordbook.Text
