import Wordbook.Json

/-!
# The schema of bundles as a document

The document that those who store lexemes publish, member by member. It gives
itself a URI, and the schemas of variants and forms stand among its definitions.
-/

namespace Wordbook

open Json

/-- The URI of the document. -/
def Bundle.schemaUri : String := "https://lexload.dev/schemas/lexeme-bundle.json"

def Form.schemaDocument : Json :=
  .object
    [("type", .string "object"),
     ("required", .array [.string "variantId", .string "formTypeId", .string "text",
       .string "state"]),
     ("properties", .object
       [("variantId", .object [("type", .string "integer"), ("maximum", .whole (-1))]),
        ("formTypeId", .object [("type", .string "integer")]),
        ("text", .object [("type", .string "string"), ("minLength", .whole 1),
          ("maxLength", .whole 100)]),
        ("state", .object [("enum", .array [.string "typed", .string "generated"])])])]

def Variant.schemaDocument : Json :=
  .object
    [("type", .string "object"),
     ("required", .array [.string "id", .string "orthographyId", .string "main",
       .string "dialectIds", .string "lexemeForms", .string "active", .string "action"]),
     ("properties", .object
       [("id", .object [("type", .string "integer"), ("maximum", .whole (-1))]),
        ("orthographyId", .object [("type", .string "integer")]),
        ("main", .object [("type", .string "boolean")]),
        ("dialectIds", .object
          [("type", .string "array"),
           ("items", .object [("type", .string "integer")]),
           ("uniqueItems", .bool true)]),
        ("lexemeForms", .object
          [("type", .string "array"),
           ("minItems", .whole 1),
           ("items", .object [("$ref", .string "#/definitions/lexemeForm")])]),
        ("properties", .object
          [("type", .string "object"),
           ("additionalProperties", .object
             [("type", .string "array"),
              ("items", .object [("type", .string "string"), ("minLength", .whole 1)]),
              ("uniqueItems", .bool true)])]),
        ("active", .object [("type", .string "boolean")]),
        ("action", .object [("enum", .array [.string "insert"])])])]

def Bundle.schemaDocument : Json :=
  .object
    [("$schema", .string "http://json-schema.org/draft-07/schema#"),
     ("$id", .string schemaUri),
     ("title", .string "LexemeBundle"),
     ("description", .string "One lexeme root with its variants, tagged for insertion"),
     ("type", .string "object"),
     ("required", .array [.string "languageId", .string "language", .string "pos",
       .string "lineNumber", .string "action", .string "variants"]),
     ("properties", .object
       [("languageId", .object [("type", .string "integer")]),
        ("language", .object [("type", .string "string"), ("minLength", .whole 1)]),
        ("pos", .object [("type", .string "string"), ("minLength", .whole 1)]),
        ("lineNumber", .object [("type", .string "integer"), ("minimum", .whole 1)]),
        ("action", .object [("enum", .array [.string "insert"])]),
        ("variants", .object
          [("type", .string "array"),
           ("minItems", .whole 1),
           ("items", .object [("$ref", .string "#/definitions/variant")]),
           ("contains", .object
             [("type", .string "object"),
              ("properties", .object [("main", .object [("const", .bool true)])]),
              ("required", .array [.string "main"])])])]),
     ("definitions", .object
       [("variant", Variant.schemaDocument), ("lexemeForm", Form.schemaDocument)])]

end Wordbook
