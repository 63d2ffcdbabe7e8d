import Wordbook.Text.CaseTable
import Wordbook.Text.Ranges

/-!
# Lower case

The full lower-case mapping of Unicode. Two characters need more than the table:
the capital I with a dot becomes two characters, and a capital sigma becomes a
final one where a letter with case stands before it and none after it.
-/

namespace Wordbook.Text

/-- The lower case of one character by the table; a character outside it is its own. -/
def lowerChar (c : Char) : Char :=
  let n := c.toNat
  match lowerRuns.find? fun r => r.first ≤ n && n ≤ r.last && (n - r.first) % r.step == 0 with
  | some r => Char.ofNat (n + r.offset).toNat
  | none => c

/-- Whether the first character that counts has case. -/
def leadsWithCase (t : List Char) : Bool :=
  match t.dropWhile (inRanges caseIgnorable) with
  | c :: _ => inRanges cased c
  | [] => false

/-- The lower case of `c` between the text `before`, which is reversed, and the text `after`. -/
def lowerAt (before : List Char) (c : Char) (after : List Char) : List Char :=
  if c = 'İ' then ['i', '\u0307']
  else if c = 'Σ' then [if leadsWithCase before && !leadsWithCase after then 'ς' else 'σ']
  else [lowerChar c]

def lowerFrom (before : List Char) : List Char → List Char
  | [] => []
  | c :: t => lowerAt before c t ++ lowerFrom (c :: before) t

/-- The lower case of a text. -/
def lower (t : List Char) : List Char := lowerFrom [] t

end Wordbook.Text
