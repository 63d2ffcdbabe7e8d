import Wordbook.Cell.Error
import Wordbook.Diagnostic
import Wordbook.Lexeme
import Wordbook.Paradigm

/-!
# Creating variants

Grammars create forms and variants. Each variant draws the next temporary id,
and a long form leaves a warning; both stay done when the cell fails later on.

* `makeForm`: a form, unless its text is too long;
* `makeVariant`: a variant with its forms.
-/

namespace Wordbook

/-- Temporary ids, which count down from the first one and wrap below the least one. -/
structure IdSequence where
  first : Int64
  /-- How many of the ids have been drawn. -/
  drawn : Nat
  deriving DecidableEq, Repr

namespace IdSequence

/-- A sequence that begins with some id. -/
instance : Coe Int64 IdSequence := ⟨fun first => ⟨first, 0⟩⟩

/-- The id that is drawn next. -/
def next (ids : IdSequence) : Int64 := ids.first - Int64.ofNat ids.drawn

/-- The sequence once some more ids have been drawn. -/
def draw (ids : IdSequence) (count : Nat) : IdSequence := ⟨ids.first, ids.drawn + count⟩

end IdSequence

/-- What creation draws on and adds to: the ids of the variants, and the diagnostics raised. -/
structure Ledger where
  ids : IdSequence
  diagnostics : List Diagnostic
  deriving DecidableEq, Repr

/-- The id of the next variant. -/
def Ledger.nextId (ledger : Ledger) : Int64 := ledger.ids.next

/-- The creation of something from a cell. What it has done to the ledger stays when it fails. -/
abbrev Creation := ExceptT CellError (StateM Ledger)

/-- What a cell is created from: the name of the creator in diagnostics, the orthography of the
variants, and the place of the cell in its source. -/
structure Context where
  label : String
  orthographyId : Int64
  line : Nat
  column : Nat
  deriving DecidableEq, Repr

namespace Creation

/-- Text longer than this makes no form. -/
def maxFormLength : Nat := 100

/-- Text longer than this makes a form and a warning. -/
def longFormLength : Nat := 50

def warn (ctx : Context) (message : String) : Creation Unit :=
  let warning : Diagnostic := ⟨.warning, message, ctx.label, ctx.line, some ctx.column⟩
  modify fun ledger => { ledger with diagnostics := ledger.diagnostics ++ [warning] }

/-- The next temporary id. -/
def drawId : Creation Int64 := do
  let ledger ← get
  set { ledger with ids := ledger.ids.draw 1 }
  return ledger.nextId

/-- The warning about a long form. -/
def longFormMessage (text : String) (slot : Slot) (length : Nat) : String :=
  s!"form '{text}' for slot '{slot.name}' is {length} characters long"

/-- A form that belongs to no variant yet. -/
def makeForm (ctx : Context) (slot : Slot) (text : List Char) (state : FormState) :
    Creation Form := do
  let length := text.length
  if length > maxFormLength then
    throw (.formTooLong (String.ofList text) length maxFormLength)
  if length > longFormLength then
    warn ctx (longFormMessage (String.ofList text) slot length)
  return ⟨none, slot.id, String.ofList text, state⟩

/-- The variant of the alternatives at an index. The one at index 0 is the main variant. -/
def makeVariant (ctx : Context) (index : Nat) (forms : List Form) (properties : Properties) :
    Creation Variant := do
  let id ← drawId
  return Variant.create id ctx.orthographyId (index == 0) forms properties

end Creation

/-- A property with its tags; none is set for no tags. -/
def Properties.ofTags (name : String) (tags : SortedSet String) : Properties :=
  if tags.isEmpty then ∅ else SortedMap.singleton name tags

end Wordbook
