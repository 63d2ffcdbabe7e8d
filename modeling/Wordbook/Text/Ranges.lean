/-!
# Ranges of characters

Sets of characters as lists of ranges of code points, both ends included.
-/

namespace Wordbook.Text

/-- Whether one of the ranges holds the character. -/
def inRanges (table : List (Nat × Nat)) (c : Char) : Bool :=
  table.any fun (lo, hi) => lo ≤ c.toNat && c.toNat ≤ hi

end Wordbook.Text
