import Wordbook.Grammar.Base
import Wordbook.Grammar.Noun
import Wordbook.Grammar.Verb
import Wordbook.Row

/-!
# Creators

A creator applies one grammar to one column of a row. It has to be initialised
with the paradigm of its part of speech, once, before it creates anything.

* `Creator.initialise`: resolves the slots that the grammar fills;
* `Creator.create`, `Creator.createLexemes`: the variants of a row, all in one
  list or a list per lexeme. A creator that is not initialised has none to give,
  which is a `Fault` of its user.
-/

namespace Wordbook

/-- The grammars that a creator may apply. -/
inductive Grammar where
  | noun (style : NounStyle)
  | verb
  | misc
  | multi (separator : Char) (allowMultiWord : Bool)
  deriving DecidableEq, Repr

/-- A mistake of the program that uses the library, not of the data it is given. -/
inductive Fault where
  /-- A creator is used before it is initialised. -/
  | uninitialised (tag : String)
  /-- A cell is written to a column that the row does not have. -/
  | outsideRow (column : Nat)
  deriving DecidableEq, Repr

def Fault.message : Fault → String
  | uninitialised tag => s!"creator for '{tag}' used before initialise"
  | outsideRow column => s!"column {column} is outside the row"

namespace Grammar

/-- The slots that a grammar fills. -/
def Slots : Grammar → Type
  | noun _ => NounSlots
  | verb => VerbSlots
  | misc => Slot
  | multi _ _ => Slot

def resolve (g : Grammar) (p : Paradigm) : Except SetupError g.Slots :=
  match g with
  | noun _ => NounSlots.resolve p
  | verb => VerbSlots.resolve p
  | misc => .ok p.base
  | multi _ _ => .ok p.base

/-- The variants of a cell, taken as one lexeme. -/
def create (g : Grammar) (slots : g.Slots) (tag : String) (ctx : Context) (cell : List Char) :
    Creation (List Variant) :=
  match g, slots with
  | noun style, slots => Noun.create ctx slots style cell
  | verb, slots => Verb.create ctx slots cell
  | misc, base => Misc.create ctx base cell
  | multi _ allowMultiWord, base => Multi.createPart ctx base tag allowMultiWord cell

/-- The variants of each lexeme of a cell. A lexeme has at least one. -/
def createLexemes (g : Grammar) (slots : g.Slots) (tag : String) (ctx : Context)
    (cell : List Char) : Creation (List (List Variant)) :=
  match g, slots with
  | multi separator allowMultiWord, base =>
    Multi.createLexemes ctx base tag separator allowMultiWord cell
  | g, slots => do
    let variants ← g.create slots tag ctx cell
    return if variants.isEmpty then [] else [variants]

end Grammar

/-- A grammar for a part of speech, bound to a column of the rows. -/
structure Creator where
  tag : String
  column : Nat
  grammar : Grammar
  /-- The slots of the grammar, once the creator is initialised. -/
  slots : Option grammar.Slots

namespace Creator

/-- A creator that is not initialised. -/
def new (tag : String) (column : Nat) (grammar : Grammar) : Creator := ⟨tag, column, grammar, none⟩

def isInitialised (c : Creator) : Bool := c.slots.isSome

def initialise (c : Creator) (p : Paradigm) : Except SetupError Creator :=
  if c.isInitialised then .error (.alreadyInitialised c.tag)
  else (c.grammar.resolve p).map fun slots => { c with slots := some slots }

/-- The text that the creator reads in a row. -/
def cell (c : Creator) (row : Row) : List Char := (row.cell c.column).toList

/-- What the creator creates the variants of a row from. -/
def context (c : Creator) (label : String) (orthographyId : Int64) (row : Row) : Context :=
  ⟨label, orthographyId, row.line, c.column⟩

/-- The variants of a text, taken as one lexeme of a row. -/
def createText (c : Creator) (label : String) (orthographyId : Int64) (row : Row)
    (text : List Char) : Except Fault (Creation (List Variant)) :=
  match c.slots with
  | none => .error (.uninitialised c.tag)
  | some slots => .ok (c.grammar.create slots c.tag (c.context label orthographyId row) text)

/-- The variants of a row, taken as one lexeme. -/
def create (c : Creator) (label : String) (orthographyId : Int64) (row : Row) :
    Except Fault (Creation (List Variant)) :=
  c.createText label orthographyId row (c.cell row)

/-- The lexemes of a row that a creator of several lexemes finds, as they are written. -/
def lexemeParts (c : Creator) (row : Row) : List (List Char) :=
  match c.grammar with
  | .multi separator _ => Multi.lexemeParts separator (c.cell row)
  | _ => [c.cell row]

/-- The variants of each lexeme of a row. With several lexemes to a cell, a cell without any needs
no slots. -/
def createLexemes (c : Creator) (label : String) (orthographyId : Int64) (row : Row) :
    Except Fault (Creation (List (List Variant))) :=
  match c.slots with
  | none => if (c.lexemeParts row).isEmpty then .ok (return []) else .error (.uninitialised c.tag)
  | some slots =>
    .ok (c.grammar.createLexemes slots c.tag (c.context label orthographyId row) (c.cell row))

end Creator

end Wordbook
