/-!
# Blank characters

The Unicode property White_Space, and texts with the blanks cut off their ends.
A text under analysis is a list of characters; `String` is what records hold.
-/

namespace Wordbook.Text

/-- The characters of the Unicode property White_Space. -/
def isBlank (c : Char) : Bool :=
  let n := c.toNat
  (0x09 ≤ n && n ≤ 0x0D) || n == 0x20 || n == 0x85 || n == 0xA0 || n == 0x1680 ||
    (0x2000 ≤ n && n ≤ 0x200A) || n == 0x2028 || n == 0x2029 || n == 0x202F || n == 0x205F ||
    n == 0x3000

/-- A text with no other characters than blanks. -/
def isBlankText (t : List Char) : Bool := t.all isBlank

def trimStart (t : List Char) : List Char := t.dropWhile isBlank

def trimEnd (t : List Char) : List Char := (t.reverse.dropWhile isBlank).reverse

/-- A text without the blanks at either end. -/
def trim (t : List Char) : List Char := trimEnd (trimStart t)

end Wordbook.Text
