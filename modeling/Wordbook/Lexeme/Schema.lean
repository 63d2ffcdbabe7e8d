import Wordbook.Lexeme.Record
import Wordbook.Schema

/-!
# The schema of bundles

What the storage of lexemes demands of a bundle in JSON: temporary ids, a main
variant, dialects, forms that are neither blank nor too long.

* `Bundle.schema`: the rules, in the order in which violations are told;
* `Bundle.invalid`: the bundles that break a rule.
-/

namespace Wordbook

open Schema

/-- The greatest temporary id. -/
def maxTemporaryId : Json.Number := .whole (-1)

/-- An object with some required members and rules for members. -/
def Schema.record (names : List String) (schemas : List (String × Schema)) : Schema :=
  all [members schemas, required names, kinds [.object]]

def Schema.integer : Schema := kinds [.integer]

/-- A text of one character at least. -/
def Schema.filled : Schema := all [minLength 1, kinds [.string]]

def Form.schema : Schema :=
  .record ["variantId", "formTypeId", "text", "state"]
    [("formTypeId", .integer),
     ("state", options [.string "typed", .string "generated"]),
     ("text", all [maxLength 100, minLength 1, kinds [.string]]),
     ("variantId", all [maximum maxTemporaryId, .integer])]

def Properties.schema : Schema :=
  all [otherMembers [] [] (all [items .filled, kinds [.array], distinctItems]), kinds [.object]]

def Variant.schema : Schema :=
  .record ["id", "orthographyId", "main", "dialectIds", "lexemeForms", "active", "action"]
    [("action", options [.string "insert"]),
     ("active", kinds [.boolean]),
     ("dialectIds", all [items .integer, kinds [.array], distinctItems]),
     ("id", all [maximum maxTemporaryId, .integer]),
     ("lexemeForms", all [items Form.schema, minItems 1, kinds [.array]]),
     ("main", kinds [.boolean]),
     ("orthographyId", .integer),
     ("properties", Properties.schema)]

/-- What some variant of a bundle has to be. -/
def Variant.mainSchema : Schema := .record ["main"] [("main", constant (.bool true))]

def Bundle.schema : Schema :=
  .record ["languageId", "language", "pos", "lineNumber", "action", "variants"]
    [("action", options [.string "insert"]),
     ("language", .filled),
     ("languageId", .integer),
     ("lineNumber", all [minimum (.whole 1), .integer]),
     ("pos", .filled),
     ("variants",
       all [contains Variant.mainSchema, items Variant.schema, minItems 1, kinds [.array]])]

/-- The values that are no valid bundles: their places, and what is wrong with each. -/
def Bundle.invalidValues (values : List Json) : List (Nat × List String) :=
  (values.zipIdx.map fun (v, place) => (place, Bundle.schema.messages v)).filter
    fun (_, messages) => !messages.isEmpty

/-- The bundles that are not valid. -/
def Bundle.invalid (bundles : List Bundle) : List (Nat × List String) :=
  invalidValues (bundles.map Bundle.toJson)

end Wordbook
