/-!
# Cell errors

Why the cell of a row gives no variants, or its dialect cell no dialects.
-/

namespace Wordbook

inductive CellError where
  /-- The parts between commas are not as many as the grammar has. -/
  | partCount (expected found : Nat)
  | alternativeOutOfRange (part : String) (index available : Nat)
  | emptyAlternative (part : String)
  | unknownGenus (tag : String)
  | unknownAuxiliary (tag : String)
  | missingArticle (text : String)
  /-- A plural with more than one dash that stands for the singular. -/
  | multipleElisions (text : String)
  | unknownDialect (name : String)
  /-- Dialect groups where there is one variant only. -/
  | tildeForSingleVariant (cell : String)
  | dialectGroupMismatch (groups variants : Nat)
  | formTooLong (text : String) (length limit : Nat)
  deriving DecidableEq, Repr

def CellError.message : CellError → String
  | partCount expected found => s!"expected {expected} comma-separated parts, found {found}"
  | alternativeOutOfRange part index available =>
    s!"part '{part}' has {available} alternatives, alternative {index} requested"
  | emptyAlternative part => s!"empty alternative in '{part}'"
  | unknownGenus tag => s!"unknown genus '{tag}'"
  | unknownAuxiliary tag => s!"unknown auxiliary '{tag}'"
  | missingArticle text => s!"missing article in '{text}'"
  | multipleElisions text => s!"more than one '-' in plural '{text}'"
  | unknownDialect name => s!"unknown dialect '{name}'"
  | tildeForSingleVariant cell =>
    s!"dialect cell '{cell}' contains '~' but only one variant was produced"
  | dialectGroupMismatch groups variants => s!"{groups} dialect groups for {variants} variants"
  | formTooLong text length limit =>
    s!"form '{text}' is {length} characters long (maximum {limit})"

end Wordbook
