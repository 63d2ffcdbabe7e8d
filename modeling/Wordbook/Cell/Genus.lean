import Wordbook.Cell.Parts
import Wordbook.Order.SortedSet

/-!
# Genus in noun cells

A noun tells its genus in one of two ways: a tag or a list of tags at the end of
the cell (`takeGenus`), or an article in front of the singular (`takeArticle`).
-/

namespace Wordbook.Cell

open Text (isBlank trim trimEnd trimStart)

/-- The genus tags of nouns. -/
def nounGenera : List String := ["f", "m", "n"]

/-- The tags of a block, all of which have to be allowed. -/
def genusTags (allowed : List String) (block : List Char) :
    Except CellError (SortedSet String) := do
  let tags ← (names block).mapM fun name =>
    let tag := String.ofList name
    if allowed.contains tag then .ok tag else .error (CellError.unknownGenus tag)
  return SortedSet.ofList tags

/-- Takes the genus off the end of a text. A trailing block holds tags and nothing else; without
one, a last word that is an allowed tag is a genus if some word stands before it. -/
def takeGenus (t : List Char) (allowed : List String) :
    Except CellError (List Char × SortedSet String) :=
  match trailingBlock t with
  | some (before, block) => (genusTags allowed block).map fun tags => (before, tags)
  | none =>
    let whole := trim t
    match Text.cutAtLast isBlank whole with
    | some (before, _, last) =>
      let tag := String.ofList last
      if allowed.contains tag && !(trim before).isEmpty then
        .ok (trimEnd before, SortedSet.singleton tag)
      else .ok (whole, ∅)
    | none => .ok (whole, ∅)

/-- The articles, with the genus that each one tells. Where one is the start of another, the longer
one comes first. -/
def articles : List (String × String) := [("de(n)", "m"), ("dat", "n"), ("de", "f")]

/-- A text without a word that it starts with, if it does. -/
def dropWord? (word t : List Char) : Option (List Char) :=
  if word.isPrefixOf t then some (t.drop word.length) else none

/-- Takes the article off the front of a text, and tells its genus. Blanks have to follow the
article, and after them a text in one line. -/
def takeArticle (t : List Char) : Except CellError (List Char × String) :=
  let whole := trim t
  let found := articles.findSome? fun (article, genus) =>
    match dropWord? article.toList whole with
    | some (c :: rest) =>
      let text := trimStart rest
      if isBlank c && !text.isEmpty && !text.contains '\n' then some (trim text, genus) else none
    | _ => none
  match found with
  | some r => .ok r
  | none => .error (.missingArticle (String.ofList whole))

end Wordbook.Cell
