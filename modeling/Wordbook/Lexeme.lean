import Wordbook.Order.SortedMap
import Wordbook.Order.SortedSet

/-!
# Lexemes

What a row of a dictionary becomes: a bundle per lexeme, with a variant per
spelling, each with its forms. Ids of new variants are negative and temporary.

* `Variant.create`: a new variant, whose forms all point back to it;
* `Bundle.main?`: the variant that stands for the lexeme.
-/

namespace Wordbook

/-- How the text of a form came about. -/
inductive FormState where
  /-- Written as it is in the source. -/
  | typed
  /-- Derived from another form. -/
  | generated
  deriving DecidableEq, Repr

/-- What is to be done with a lexeme or a variant when it is stored. -/
inductive Action where
  | insert
  deriving DecidableEq, Repr

/-- A word form in one slot of a paradigm. -/
structure Form where
  /-- The variant that the form belongs to, once there is one. -/
  variantId : Option Int64
  slotId : Int64
  text : String
  state : FormState
  deriving DecidableEq, Repr

/-- Named sets of tags, such as the genera of a noun. -/
abbrev Properties := SortedMap String (SortedSet String)

/-- One spelling of a lexeme, with its forms. -/
structure Variant where
  id : Int64
  orthographyId : Int64
  main : Bool
  /-- The dialects that the spelling belongs to, once they are distributed. -/
  dialectIds : Option (SortedSet Int64)
  forms : List Form
  properties : Properties
  active : Bool
  action : Action
  deriving DecidableEq

namespace Variant

/-- A new variant, without dialects as yet. -/
def create (id orthographyId : Int64) (main : Bool) (forms : List Form) (properties : Properties) :
    Variant where
  id := id
  orthographyId := orthographyId
  main := main
  dialectIds := none
  forms := forms.map fun form => { form with variantId := some id }
  properties := properties
  active := true
  action := .insert

/-- The first form in a slot. -/
def form? (variant : Variant) (slotId : Int64) : Option Form :=
  variant.forms.find? (·.slotId == slotId)

/-- The tags of a property, none if it is not set. -/
def property (variant : Variant) (name : String) : List String :=
  match variant.properties.get? name with
  | some tags => tags.toList
  | none => []

end Variant

/-- A language of the reference data. -/
structure Language where
  id : Int64
  code : String
  name : String
  deriving DecidableEq, Repr

/-- A lexeme with all its variants, as it is handed on for storing. -/
structure Bundle where
  languageId : Int64
  language : String
  pos : String
  line : Nat
  action : Action
  variants : List Variant
  deriving DecidableEq

/-- The first variant that is marked as the main one. -/
def Bundle.main? (bundle : Bundle) : Option Variant := bundle.variants.find? (·.main)

end Wordbook
