import Wordbook.Cell.Parts
import Wordbook.Creation

/-!
# Grammars of a single form

Cells that fill the base slot and no other. Commas in them separate nothing.

* `Misc`: the whole cell is a lexeme, with a tilde between its spellings;
* `Multi`: the cell holds several lexemes with a separator between them. A part
  that looks as if it were cut wrongly leaves a warning. A parenthesis that is
  part of a word is written with a backslash before it.
-/

namespace Wordbook

open Creation

/-- The variants of the alternatives of a text, each with one form, edited by `edit`. -/
def Creation.spellings (ctx : Context) (base : Slot) (text : List Char)
    (edit : List Char → List Char) : Creation (List Variant) :=
  (List.range (Cell.alternativeCount text)).mapM fun index => do
    let spelling ← Cell.alternative text index
    let form ← makeForm ctx base (edit spelling) .typed
    makeVariant ctx index [form] ∅

namespace Misc

/-- The variants of a cell with a single lexeme. A blank one has none. -/
def create (ctx : Context) (base : Slot) (cell : List Char) : Creation (List Variant) := do
  if Text.isBlankText cell then return []
  spellings ctx base (Text.trim cell) id

end Misc

namespace Multi

/-- Whether some parenthesis has no backslash before it that counts for it. A backslash counts for
the character after it; `escaped` tells whether one counts for the first character. -/
def hasBareParenthesis (escaped : Bool) : List Char → Bool
  | [] => false
  | c :: t =>
    if c = '\\' then hasBareParenthesis (!escaped) t
    else if (c = '(' || c = ')') && !escaped then true
    else hasBareParenthesis false t

/-- A text without the backslash before each `c`. -/
def dropEscapes (c : Char) : List Char → List Char
  | [] => []
  | [d] => [d]
  | d :: e :: t => if d = '\\' && e = c then c :: dropEscapes c t else d :: dropEscapes c (e :: t)

/-- A text without the backslash before each parenthesis. -/
def unescape (t : List Char) : List Char := dropEscapes ')' (dropEscapes '(' t)

/-- The lexemes of a cell, blank ones dropped. -/
def lexemeParts (separator : Char) (cell : List Char) : List (List Char) :=
  ((Text.pieces separator cell).map Text.trim).filter fun part => !part.isEmpty

/-- Whether some spelling of a part is of several words. -/
def hasInnerBlank (part : List Char) : Bool :=
  (Text.pieces '~' part).any fun spelling => (Text.trim spelling).any Text.isBlank

def parenthesisMessage (part : String) : String :=
  s!"'{part}' contains parentheses; was the cell split correctly?"

def innerBlankMessage (part tag : String) : String :=
  s!"'{part}' contains spaces but '{tag}' entries are single words"

/-- The variants of one lexeme. A blank one has none. -/
def createPart (ctx : Context) (base : Slot) (tag : String) (allowMultiWord : Bool)
    (part : List Char) : Creation (List Variant) := do
  if Text.isBlankText part then return []
  let part := Text.trim part
  if hasBareParenthesis false part then
    warn ctx (parenthesisMessage (String.ofList part))
  if !allowMultiWord && hasInnerBlank part then
    warn ctx (innerBlankMessage (String.ofList part) tag)
  spellings ctx base part unescape

/-- The variants of each lexeme of a cell. -/
def createLexemes (ctx : Context) (base : Slot) (tag : String) (separator : Char)
    (allowMultiWord : Bool) (cell : List Char) : Creation (List (List Variant)) := do
  let lexemes ← (lexemeParts separator cell).mapM (createPart ctx base tag allowMultiWord)
  return lexemes.filter fun variants => !variants.isEmpty

end Multi

end Wordbook
