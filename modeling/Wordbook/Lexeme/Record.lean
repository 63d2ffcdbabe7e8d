import Wordbook.Diagnostic
import Wordbook.Json.Record
import Wordbook.Lexeme
import Wordbook.Paradigm

/-!
# Lexemes and diagnostics in JSON

The form in which bundles and diagnostics are handed on, and in which they are
read back (`Bundle.ofJson?`, `Diagnostic.ofJson?`). Slots, parts of speech and
languages are read and written here too.
-/

namespace Wordbook

open Json

def Slot.ofJson? (v : Json) : Option Slot := do
  let r ← v.record? ["id", "name", "position"]
  return {
    id := ← r.required "id" int64?
    name := ← r.required "name" text?
    position := ← r.required "position" fun v =>
      (v.wholeWithin? 0 (UInt32.size - 1 : Nat)).map Int.toNat }

def Slot.toJson (s : Slot) : Json :=
  .object [("id", ofInt64 s.id), ("name", .string s.name), ("position", ofCount s.position)]

def PartOfSpeech.ofJson? (v : Json) : Option PartOfSpeech := do
  let r ← v.record? ["id", "tag"]
  return { id := ← r.required "id" int64?, tag := ← r.required "tag" text? }

def PartOfSpeech.toJson (p : PartOfSpeech) : Json :=
  .object [("id", ofInt64 p.id), ("tag", .string p.tag)]

def Language.ofJson? (v : Json) : Option Language := do
  let r ← v.record? ["id", "code", "name"]
  return {
    id := ← r.required "id" int64?
    code := ← r.required "code" text?
    name := ← r.defaulted "name" "" text? }

def Language.toJson (l : Language) : Json :=
  .object [("id", ofInt64 l.id), ("code", .string l.code), ("name", .string l.name)]

def FormState.name : FormState → String
  | typed => "typed"
  | generated => "generated"

def FormState.ofJson? : Json → Option FormState :=
  choice? [("typed", typed), ("generated", generated)]

def Action.name : Action → String
  | insert => "insert"

def Action.ofJson? : Json → Option Action := choice? [("insert", insert)]

def Form.ofJson? (v : Json) : Option Form := do
  let r ← v.record? ["variantId", "formTypeId", "text", "state"]
  return {
    variantId := ← r.optional "variantId" int64?
    slotId := ← r.required "formTypeId" int64?
    text := ← r.required "text" text?
    state := ← r.required "state" FormState.ofJson? }

def Form.toJson (f : Form) : Json :=
  .object [("variantId", ofOption ofInt64 f.variantId), ("formTypeId", ofInt64 f.slotId),
    ("text", .string f.text), ("state", .string f.state.name)]

def Properties.ofJson? : Json → Option Properties := map? (set? text?)

def Properties.toJson (p : Properties) : Json := ofMap (ofSet .string) p

def Variant.ofJson? (v : Json) : Option Variant := do
  let r ← v.record? ["id", "orthographyId", "main", "dialectIds", "lexemeForms", "properties",
    "active", "action"]
  return {
    id := ← r.required "id" int64?
    orthographyId := ← r.required "orthographyId" int64?
    main := ← r.required "main" bool?
    dialectIds := ← r.optional "dialectIds" (set? int64?)
    forms := ← r.required "lexemeForms" (list? Form.ofJson?)
    properties := ← r.defaulted "properties" ∅ Properties.ofJson?
    active := ← r.required "active" bool?
    action := ← r.required "action" Action.ofJson? }

def Variant.toJson (v : Variant) : Json :=
  .object [("id", ofInt64 v.id), ("orthographyId", ofInt64 v.orthographyId), ("main", .bool v.main),
    ("dialectIds", ofOption (ofSet ofInt64) v.dialectIds),
    ("lexemeForms", ofList Form.toJson v.forms), ("properties", v.properties.toJson),
    ("active", .bool v.active), ("action", .string v.action.name)]

def Bundle.ofJson? (v : Json) : Option Bundle := do
  let r ← v.record? ["languageId", "language", "pos", "lineNumber", "action", "variants"]
  return {
    languageId := ← r.required "languageId" int64?
    language := ← r.required "language" text?
    pos := ← r.required "pos" text?
    line := ← r.required "lineNumber" count?
    action := ← r.required "action" Action.ofJson?
    variants := ← r.required "variants" (list? Variant.ofJson?) }

def Bundle.toJson (b : Bundle) : Json :=
  .object [("languageId", ofInt64 b.languageId), ("language", .string b.language),
    ("pos", .string b.pos), ("lineNumber", ofCount b.line), ("action", .string b.action.name),
    ("variants", ofList Variant.toJson b.variants)]

def Severity.ofJson? : Json → Option Severity :=
  choice? [("info", info), ("warning", warning), ("error", error)]

def Diagnostic.ofJson? (v : Json) : Option Diagnostic := do
  let r ← v.record? ["severity", "message", "context", "line", "column"]
  return {
    severity := ← r.required "severity" Severity.ofJson?
    message := ← r.required "message" text?
    context := ← r.required "context" text?
    line := ← r.required "line" count?
    column := ← r.defaulted "column" none (Record.readOptional count?) }

def Diagnostic.toJson (d : Diagnostic) : Json :=
  .object [("severity", .string d.severity.name), ("message", .string d.message),
    ("context", .string d.context), ("line", ofCount d.line),
    ("column", ofOption ofCount d.column)]

end Wordbook
