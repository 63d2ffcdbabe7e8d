import Wordbook.Json
import Wordbook.Schema
import Wordbook.Text.Utf8

/-!
# Documents that hold schemas

Where schemas stand in JSON documents, and how one is found by its address. A
schema that gives itself a URI (`$id`) is a document of its own; one that gives
itself a name can be found by it in the document around it.

* `Located.subschemas`: a schema and all schemas inside it;
* `Library.find?`: the schema at an address.
-/

namespace Wordbook.Schema

/-- What stands before and behind the last number sign of a reference. -/
def cutPlace (t : List Char) : List Char × List Char :=
  match Text.cutAtLast (· == '#') t with
  | some (uri, _, place) => (uri, place)
  | none => (t, [])

/-- The URI without the place that a reference may name in it. -/
def uriOf? (base : Uri) (t : List Char) : Option Uri :=
  (Uri.ofText? .ascii (cutPlace t).1).map base.resolve

/-- The address that a reference stands for in a document. -/
def Address.ofReference? (base : Uri) (reference : String) : Option Address := do
  let t := reference.toList
  let uri ← uriOf? base t
  return ⟨String.ofList uri.toText, String.ofList (cutPlace t).2⟩

/-- The keywords that hold a schema. -/
def schemaKeywords : List String :=
  ["additionalItems", "additionalProperties", "contains", "else", "if", "items", "not",
   "propertyNames", "then"]

/-- The keywords that hold several schemas in an array. -/
def listKeywords : List String := ["allOf", "anyOf", "items", "oneOf"]

/-- The keywords that hold schemas under names. -/
def namedKeywords : List String :=
  ["definitions", "dependencies", "patternProperties", "properties"]

/-! ## Places -/

/-- A schema, and the URI of the document around it. -/
structure Located where
  base : Uri
  value : Json

namespace Located

/-- The id that a schema gives itself. One that is a mere reference has none. -/
def id? (v : Json) : Option (List Char) :=
  match v.member? "$ref", v.member? "$id" with
  | none, some (.string id) => some id.toList
  | _, _ => none

/-- The URI that references inside a schema are relative to. -/
def innerBase (base : Uri) (v : Json) : Uri :=
  match id? v with
  | some ('#' :: _) | none => base
  | some id => (uriOf? base id).getD base

mutual

/-- A schema and all schemas inside it. -/
def subschemas (base : Uri) : Json → List Located
  | .object rules =>
    ⟨base, .object rules⟩ :: ofRules (innerBase base (.object rules)) rules
  | v => [⟨base, v⟩]

/-- The schemas inside the rules of a schema. -/
def ofRules (base : Uri) : List (String × Json) → List Located
  | [] => []
  | (keyword, .array vs) :: rules =>
    (if listKeywords.contains keyword then ofList base vs else []) ++ ofRules base rules
  | (keyword, .object ms) :: rules =>
    (if schemaKeywords.contains keyword then subschemas base (.object ms)
      else if namedKeywords.contains keyword then ofMembers base ms
      else []) ++ ofRules base rules
  | _ :: rules => ofRules base rules

def ofList (base : Uri) : List Json → List Located
  | [] => []
  | v :: vs => subschemas base v ++ ofList base vs

def ofMembers (base : Uri) : List (String × Json) → List Located
  | [] => []
  | (_, v) :: ms => subschemas base v ++ ofMembers base ms

end

/-- The address that a schema gives itself, if it does. -/
def address? (l : Located) : Option Address :=
  match id? l.value with
  | none => none
  | some ('#' :: name) => some ⟨String.ofList l.base.toText, String.ofList name⟩
  | some _ => some ⟨String.ofList (innerBase l.base l.value).toText, ""⟩

/-- The address that a schema refers to, if it does. -/
def reference? (l : Located) : Option Address :=
  (l.value.member? "$ref").bind fun v => v.text?.bind (Address.ofReference? l.base)

/-- The number that stands for an element of an array. -/
def index? (segment : List Char) : Option Nat :=
  match segment with
  | '+' :: t => Text.decimal? t
  | t => Text.decimal? t

/-- A segment of a pointer without escapes. -/
def unescape : List Char → List Char
  | [] => []
  | '~' :: '1' :: t => '/' :: unescape t
  | '~' :: '0' :: t => '~' :: unescape t
  | c :: t => c :: unescape t

/-- The value that a segment of a pointer leads to. -/
def child? (l : Located) (segment : List Char) : Option Located :=
  let base := innerBase l.base l.value
  match l.value with
  | .array vs => do return ⟨base, ← vs[← index? segment]?⟩
  | v => (v.member? (String.ofList (unescape segment))).map (⟨base, ·⟩)

/-- The bytes of a text with percent signs. One that no two digits follow stands for itself. -/
def percentBytes : List Char → List UInt8
  | [] => []
  | '%' :: a :: b :: t =>
    match Text.hexValue? a, Text.hexValue? b with
    | some high, some low => .ofNat (high * 16 + low) :: percentBytes t
    | _, _ => Text.Utf8.bytesOf '%' ++ percentBytes (a :: b :: t)
  | c :: t => Text.Utf8.bytesOf c ++ percentBytes t

/-- The value that a pointer leads to, behind its first slash. -/
def follow? (l : Located) (pointer : List Char) : Option Located := do
  let t ← Text.readUtf8? (percentBytes pointer)
  (Text.pieces '/' t).foldlM child? l

end Located

/-- Schemas under their addresses. -/
abbrev Library := List (Address × Located)

namespace Library

/-- The library of the schemas in a document. -/
def ofDocument (base : Uri) (v : Json) : Library :=
  (⟨String.ofList base.toText, ""⟩, ⟨base, v⟩) ::
    (Located.subschemas base v).filterMap fun l => l.address?.map (·, l)

/-- The schema at an address. -/
def find? (library : Library) (address : Address) : Option Located := do
  match address.place.toList with
  | '/' :: pointer => (← library.lookup ⟨address.document, ""⟩).follow? pointer
  | _ => library.lookup address

/-- Whether a library holds all documents that a document refers to. -/
def holdsDocumentsOf (library : Library) (base : Uri) (v : Json) : Bool :=
  (Located.subschemas base v).all fun l =>
    l.reference?.all fun address => (library.lookup ⟨address.document, ""⟩).isSome

end Library

end Wordbook.Schema
