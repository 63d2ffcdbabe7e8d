import Wordbook.Cell.Auxiliary
import Wordbook.Creation

/-!
# The grammar of verbs

A verb cell is an infinitive, or an infinitive, a present, a preterite and a
participle. A bar in the infinitive marks a separable prefix: the spelling with
the bar is a form of its own, and the infinitive is generated from it. The
auxiliaries stand in a list behind the cell or before the participles.
-/

namespace Wordbook

open Cell (Parts)
open Creation

structure VerbSlots where
  infinitive : Slot
  divided : Slot
  present : Slot
  preterite : Slot
  participle : Slot
  deriving DecidableEq, Repr

def VerbSlots.resolve (p : Paradigm) : Except SetupError VerbSlots := do
  return ⟨← p.require "infinitive", ← p.require "infinitive_divided", ← p.require "present_3sg",
    ← p.require "preterite_3sg", ← p.require "participle"⟩

namespace Verb

/-- The property that holds the auxiliaries. -/
def auxiliariesProperty : String := "auxiliaries"

/-- The number of parts of a full verb cell. -/
def fullSize : Nat := 4

/-- The infinitive, with its divided spelling if a bar divides it. -/
def infinitiveForms (ctx : Context) (slots : VerbSlots) (text : List Char) :
    Creation (List Form) := do
  if text.contains '|' then
    let joined ← makeForm ctx slots.infinitive (text.filter (· != '|')) .generated
    let divided ← makeForm ctx slots.divided text .typed
    return [joined, divided]
  else
    return [← makeForm ctx slots.infinitive text .typed]

/-- The variant at an index of a cell whose list of auxiliaries has been taken off. -/
def variant (ctx : Context) (slots : VerbSlots) (parts : Parts) (listed : SortedSet String)
    (index : Nat) : Creation Variant := do
  let forms ← infinitiveForms ctx slots (← Cell.alternative parts.first index)
  match parts.before with
  | [_, presentPart, preteritePart] =>
    let present ← makeForm ctx slots.present (← Cell.alternative presentPart index) .typed
    let preterite ← makeForm ctx slots.preterite (← Cell.alternative preteritePart index) .typed
    let (text, marker) := Cell.takeLeadingAuxiliary (← Cell.alternative parts.last index)
    let participle ← makeForm ctx slots.participle text .typed
    let auxiliaries := match marker with
      | some verb => listed.insert verb
      | none => listed
    makeVariant ctx index (forms ++ [present, preterite, participle])
      (Properties.ofTags auxiliariesProperty auxiliaries)
  | _ => makeVariant ctx index forms (Properties.ofTags auxiliariesProperty listed)

/-- The variants of a verb cell. A blank one has none. -/
def create (ctx : Context) (slots : VerbSlots) (cell : List Char) : Creation (List Variant) := do
  if Text.isBlankText cell then return []
  let parts ← Parts.ofCell cell fullSize
  let (last, listed) ← Cell.takeAuxiliaries parts.last
  let parts := { parts with last := last }
  (List.range (Cell.maxAlternatives parts.toList)).mapM (variant ctx slots parts listed)

end Verb

end Wordbook
