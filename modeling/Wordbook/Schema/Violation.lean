import Wordbook.Json.Value
import Wordbook.Json.Writer

/-!
# Violations of schemas

What is wrong with a value that a schema does not allow, rule by rule.

* `Violation.message`: a violation as a text. Values in it are written as JSON.
-/

namespace Wordbook

/-- A rule that a value breaks. -/
inductive Violation where
  | notAllowed (v : Json)
  | wrongKind (v : Json) (kinds : List Json.Kind)
  | notExpected (expected : Json)
  | noOption (v : Json) (options : List Json)
  | belowMinimum (v : Json) (limit : Json.Number)
  | aboveMaximum (v : Json) (limit : Json.Number)
  /-- A value that is not above a limit. -/
  | notAbove (v : Json) (limit : Json.Number)
  /-- A value that is not below a limit. -/
  | notBelow (v : Json) (limit : Json.Number)
  | noMultiple (v : Json) (factor : Json.Number)
  | shorter (v : Json) (limit : Nat)
  | longer (v : Json) (limit : Nat)
  | noMatch (v : Json) (pattern : String)
  | wrongFormat (v : Json) (name : String)
  | wrongEncoding (v : Json) (name : String)
  | wrongContent (v : Json) (name : String)
  | fewerItems (v : Json) (limit : Nat)
  | moreItems (v : Json) (limit : Nat)
  | repeatedItems (v : Json)
  | extraItems (items : List Json)
  | containsNone (v : Json)
  | fewerMembers (v : Json) (limit : Nat)
  | moreMembers (v : Json) (limit : Nat)
  | missing (name : String)
  | extraMembers (names : List String)
  /-- A value that a schema allows which it must not obey. -/
  | excluded (schema v : Json)
  /-- A value that no schema of a rule allows. -/
  | fitsNone (rule : String) (v : Json)
  /-- A value that more than one schema allows, where it has to be just one. -/
  | fitsSeveral (rule : String) (v : Json)

namespace Violation

/-- A limit with its unit. -/
def counted (limit : Nat) (one many : String) : String :=
  if limit = 1 then s!"1 {one}" else s!"{limit} {many}"

/-- Texts with commas between them, and a word before the last one. -/
def enumerate (word : String) : List String → String
  | [] => ""
  | [only] => only
  | texts => ", ".intercalate texts.dropLast ++ " " ++ word ++ " " ++ texts.getLastD ""

/-- The options of a rule. Of more than three, the first two and the number of the others. -/
def optionList (options : List Json) : String :=
  let texts := options.map Json.compact
  if texts.length > 3 then
    enumerate "or" (texts.take 2 ++ [s!"{texts.length - 2} other candidates"])
  else enumerate "or" texts

def kindNames (kinds : List Json.Kind) : String :=
  ", ".intercalate (kinds.map fun kind => (Json.string kind.name).compact)

/-- What there is too much of. -/
def unexpected (texts : List String) : String :=
  ", ".intercalate texts ++ if texts.length = 1 then " was unexpected" else " were unexpected"

def number (n : Json.Number) : String := (Json.number n).compact

def message : Violation → String
  | notAllowed v => s!"False schema does not allow {v.compact}"
  | wrongKind v kinds =>
    let word := if kinds.length = 1 then "type" else "types"
    s!"{v.compact} is not of {word} {kindNames kinds}"
  | notExpected expected => s!"{expected.compact} was expected"
  | noOption v options => s!"{v.compact} is not one of {optionList options}"
  | belowMinimum v limit => s!"{v.compact} is less than the minimum of {number limit}"
  | aboveMaximum v limit => s!"{v.compact} is greater than the maximum of {number limit}"
  | notAbove v limit => s!"{v.compact} is less than or equal to the minimum of {number limit}"
  | notBelow v limit => s!"{v.compact} is greater than or equal to the maximum of {number limit}"
  | noMultiple v factor => s!"{v.compact} is not a multiple of {number factor}"
  | shorter v limit => s!"{v.compact} is shorter than " ++ counted limit "character" "characters"
  | longer v limit => s!"{v.compact} is longer than " ++ counted limit "character" "characters"
  | noMatch v pattern => s!"{v.compact} does not match \"" ++ pattern ++ "\""
  | wrongFormat v name => s!"{v.compact} is not a \"" ++ name ++ "\""
  | wrongEncoding v name =>
    s!"{v.compact} is not compliant with \"" ++ name ++ "\" content encoding"
  | wrongContent v name => s!"{v.compact} is not compliant with \"" ++ name ++ "\" media type"
  | fewerItems v limit => s!"{v.compact} has less than " ++ counted limit "item" "items"
  | moreItems v limit => s!"{v.compact} has more than " ++ counted limit "item" "items"
  | repeatedItems v => s!"{v.compact} has non-unique elements"
  | extraItems items =>
    s!"Additional items are not allowed ({unexpected (items.map Json.compact)})"
  | containsNone v => s!"None of {v.compact} are valid under the given schema"
  | fewerMembers v limit =>
    s!"{v.compact} has less than " ++ counted limit "property" "properties"
  | moreMembers v limit => s!"{v.compact} has more than " ++ counted limit "property" "properties"
  | missing name => s!"{(Json.string name).compact} is a required property"
  | extraMembers names =>
    let quoted := names.map fun name => "'" ++ name ++ "'"
    s!"Additional properties are not allowed ({unexpected quoted})"
  | excluded schema v => s!"{schema.compact} is not allowed for {v.compact}"
  | fitsNone rule v =>
    s!"{v.compact} is not valid under any of the schemas listed in the '{rule}' keyword"
  | fitsSeveral rule v =>
    s!"{v.compact} is valid under more than one of the schemas listed in the '{rule}' keyword"

end Violation

end Wordbook
