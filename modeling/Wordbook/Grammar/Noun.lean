import Wordbook.Cell.Genus
import Wordbook.Creation

/-!
# The grammar of nouns

A noun cell is a singular, or a singular and a plural. Its genus is written
either behind them or as an article before the singular (`NounStyle`). A dash in
a plural after an article stands for the singular of the same variant.
-/

namespace Wordbook

open Cell (Parts)
open Creation

/-- How the genus of a noun is written. -/
inductive NounStyle where
  | genusSuffix
  | articlePrefix
  deriving DecidableEq, Repr

structure NounSlots where
  singular : Slot
  plural : Slot
  deriving DecidableEq, Repr

def NounSlots.resolve (p : Paradigm) : Except SetupError NounSlots := do
  return ⟨← p.require "singular", ← p.require "plural"⟩

namespace Noun

/-- The property that holds the genus tags. -/
def generaProperty : String := "genera"

/-- The text of a plural, whose single dash stands for the singular. -/
def expandPlural (plural singular : List Char) : Except CellError (List Char × FormState) :=
  match plural.count '-' with
  | 0 => .ok (plural, .typed)
  | 1 => .ok (plural.flatMap fun c => if c = '-' then singular else [c], .generated)
  | _ => .error (.multipleElisions (String.ofList plural))

/-- The second part of a noun cell, if it has one. -/
def pluralPart? (parts : Parts) : Option (List Char) := parts.toList[1]?

/-- The variant at an index of a cell whose genus has been taken off. -/
def suffixVariant (ctx : Context) (slots : NounSlots) (parts : Parts) (genera : SortedSet String)
    (index : Nat) : Creation Variant := do
  let singular ← Cell.alternative parts.first index
  let form ← makeForm ctx slots.singular singular .typed
  let properties := Properties.ofTags generaProperty genera
  match pluralPart? parts with
  | none => makeVariant ctx index [form] properties
  | some part =>
    let plural ← Cell.alternative part index
    let pluralForm ← makeForm ctx slots.plural plural .typed
    makeVariant ctx index [form, pluralForm] properties

/-- The variant at an index of a cell with an article before each singular. -/
def articleVariant (ctx : Context) (slots : NounSlots) (parts : Parts) (index : Nat) :
    Creation Variant := do
  let (singular, genus) ← Cell.takeArticle (← Cell.alternative parts.first index)
  let form ← makeForm ctx slots.singular singular .typed
  let properties := Properties.ofTags generaProperty (SortedSet.singleton genus)
  match pluralPart? parts with
  | none => makeVariant ctx index [form] properties
  | some part =>
    let (plural, state) ← expandPlural (← Cell.alternative part index) singular
    let pluralForm ← makeForm ctx slots.plural plural state
    makeVariant ctx index [form, pluralForm] properties

/-- The variants of the parts of a noun cell. -/
def createParts (ctx : Context) (slots : NounSlots) (style : NounStyle) (parts : Parts) :
    Creation (List Variant) :=
  match style with
  | .genusSuffix => do
    let (last, genera) ← Cell.takeGenus parts.last Cell.nounGenera
    let parts := { parts with last := last }
    (List.range (Cell.maxAlternatives parts.toList)).mapM (suffixVariant ctx slots parts genera)
  | .articlePrefix =>
    (List.range (Cell.maxAlternatives parts.toList)).mapM (articleVariant ctx slots parts)

/-- The variants of a noun cell. A blank one has none. -/
def create (ctx : Context) (slots : NounSlots) (style : NounStyle) (cell : List Char) :
    Creation (List Variant) := do
  if Text.isBlankText cell then return []
  let parts ← Parts.ofCell cell 2
  createParts ctx slots style parts

end Noun

end Wordbook
