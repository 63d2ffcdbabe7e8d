import Wordbook.Schema.Reader

/-!
# The schema of schemas

What a schema has to be, as a schema itself, and schemas that are what they have
to be.

* `Schema.Closed.ofJson?`: the schema that a value describes, with all that it
  refers to.
-/

namespace Wordbook.Schema

namespace Dialect

/-- The URI of the schema of schemas. -/
def uri : String := "http://json-schema.org/draft-07/schema"

def rule (keyword : String) (v : Json) : Json := .object [(keyword, v)]

def refer (place : String) : Json := rule "$ref" (.string place)

/-- A schema. -/
def schema : Json := refer "#"

def defined (name : String) : Json := refer ("#/definitions/" ++ name)

def kind (name : String) : Json := rule "type" (.string name)

def formatted (name : String) : Json :=
  .object [("type", .string "string"), ("format", .string name)]

def listOf (v : Json) : Json := .object [("type", .string "array"), ("items", v)]

/-- An object with such members. -/
def mapOf (v : Json) : Json := .object [("type", .string "object"), ("additionalProperties", v)]

def choice (options : List Json) : Json := rule "anyOf" (.array options)

def texts (l : List String) : Json := .array (l.map .string)

def definitions : List (String × Json) :=
  [("schemaArray",
     .object [("type", .string "array"), ("minItems", .whole 1), ("items", schema)]),
   ("nonNegativeInteger", .object [("type", .string "integer"), ("minimum", .whole 0)]),
   ("nonNegativeIntegerDefault0",
     rule "allOf" (.array [defined "nonNegativeInteger", rule "default" (.whole 0)])),
   ("simpleTypes", rule "enum" (texts (Json.Kind.all.map Json.Kind.name))),
   ("stringArray",
     .object [("type", .string "array"), ("items", kind "string"), ("uniqueItems", .bool true),
       ("default", .array [])])]

/-- Keywords that describe a schema and ask nothing of a value. -/
def annotations : List (String × Json) :=
  [("$id", formatted "uri-reference"), ("$schema", formatted "uri"),
   ("$ref", formatted "uri-reference"), ("$comment", kind "string"), ("title", kind "string"),
   ("description", kind "string"), ("default", .bool true), ("readOnly", kind "boolean"),
   ("examples", listOf (.bool true)), ("definitions", mapOf schema)]

def plainRules : List (String × Json) :=
  [("multipleOf", .object [("type", .string "number"), ("exclusiveMinimum", .whole 0)]),
   ("maximum", kind "number"), ("exclusiveMaximum", kind "number"), ("minimum", kind "number"),
   ("exclusiveMinimum", kind "number"), ("maxLength", defined "nonNegativeInteger"),
   ("minLength", defined "nonNegativeIntegerDefault0"), ("pattern", formatted "regex"),
   ("maxItems", defined "nonNegativeInteger"),
   ("minItems", defined "nonNegativeIntegerDefault0"), ("uniqueItems", kind "boolean"),
   ("maxProperties", defined "nonNegativeInteger"),
   ("minProperties", defined "nonNegativeIntegerDefault0"), ("required", defined "stringArray"),
   ("const", .bool true), ("enum", listOf (.bool true)),
   ("type", choice [defined "simpleTypes",
     .object [("type", .string "array"), ("items", defined "simpleTypes"),
       ("minItems", .whole 1), ("uniqueItems", .bool true)]]),
   ("format", kind "string"), ("contentMediaType", kind "string"),
   ("contentEncoding", kind "string")]

def nestedRules : List (String × Json) :=
  [("additionalItems", schema), ("items", choice [schema, defined "schemaArray"]),
   ("contains", schema), ("additionalProperties", schema), ("properties", mapOf schema),
   ("patternProperties",
     .object [("type", .string "object"), ("additionalProperties", schema),
       ("propertyNames", rule "format" (.string "regex"))]),
   ("dependencies", mapOf (choice [schema, defined "stringArray"])), ("propertyNames", schema),
   ("if", schema), ("then", schema), ("else", schema), ("allOf", defined "schemaArray"),
   ("anyOf", defined "schemaArray"), ("oneOf", defined "schemaArray"), ("not", schema)]

/-- The schema of schemas. -/
def document : Json :=
  .normal <| .object
    [("$schema", .string (uri ++ "#")), ("$id", .string (uri ++ "#")),
     ("title", .string "Core schema meta-schema"), ("definitions", .object definitions),
     ("type", texts ["object", "boolean"]),
     ("properties", .object (annotations ++ plainRules ++ nestedRules)), ("default", .bool true)]

def base : Uri := Uri.split uri.toList

def library : Library := Library.ofDocument base document

def closed : Closed := (Closed.ofLibrary? library base document).getD ⟨nothing, []⟩

end Dialect

/-- The URI of a document that gives itself none. -/
def defaultBase : Uri := ⟨some "document".toList, some [], ['/'], none, none⟩

/-- The schema that a normal value describes, with all that it refers to. Of other documents, there
is none but the schema of schemas. -/
def Closed.ofJson? (v : Json) : Option Closed :=
  let library := Library.ofDocument defaultBase v ++ Dialect.library
  if Dialect.closed.allows v && library.holdsDocumentsOf defaultBase v then
    ofLibrary? library defaultBase v
  else none

end Wordbook.Schema
