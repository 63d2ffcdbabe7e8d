import Wordbook.Cell.Parts
import Wordbook.Order.SortedSet

/-!
# Auxiliaries in verb cells

A verb tells the auxiliary of its perfect in one of two ways: a list of
auxiliaries at the end of the cell (`takeAuxiliaries`), or a finite form of it in
front of the participle (`takeLeadingAuxiliary`).
-/

namespace Wordbook.Cell

open Text (trim)

/-- The spellings of the auxiliaries, with the verb that each belongs to. -/
def auxiliaries : List (String × String) :=
  [("het", "hevven"), ("hett", "hevven"), ("hebben", "hevven"), ("hevven", "hevven"),
   ("is", "wesen"), ("sünd", "wesen"), ("wesen", "wesen"), ("ween", "wesen")]

/-- The finite forms that may stand in front of a participle. -/
def leadingAuxiliaries : List String := ["het", "hett", "is", "sünd"]

/-- The verb that a spelling belongs to. -/
def auxiliaryVerb (spelling : List Char) : Except CellError String :=
  match auxiliaries.lookup (String.ofList spelling) with
  | some verb => .ok verb
  | none => .error (.unknownAuxiliary (String.ofList spelling))

/-- Takes a finite auxiliary off the front of a text. It ends at the first space. -/
def takeLeadingAuxiliary (t : List Char) : List Char × Option String :=
  let whole := trim t
  match Text.cutAtFirst (· == ' ') whole with
  | some (first, _, rest) =>
    let text := trim rest
    if leadingAuxiliaries.contains (String.ofList first) && !text.isEmpty then
      (text, auxiliaries.lookup (String.ofList first))
    else (whole, none)
  | none => (whole, none)

/-- Takes a list of auxiliaries off the end of a text. Every one of them has to be known. -/
def takeAuxiliaries (t : List Char) : Except CellError (List Char × SortedSet String) :=
  match trailingBlock t with
  | some (before, block) => do
    let verbs ← (names block).mapM auxiliaryVerb
    return (before, SortedSet.ofList verbs)
  | none => .ok (trim t, ∅)

end Wordbook.Cell
