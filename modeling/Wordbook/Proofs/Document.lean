import Wordbook.Lexeme.Document
import Wordbook.Proofs.Validity
import Wordbook.Schema.Dialect

/-!
# The document of the schema of bundles

The document is read as a schema that refers to two others. With the references
resolved it says of every value what `Bundle.schema` says, and of a bundle of
the program exactly what `Bundle.IsValid` asks for.

* `Bundle.ofJson?_schemaDocument`: what the document is read as;
* `Bundle.violations_closedSchema`: the two schemas find the same wrong with every
  value;
* `Bundle.document_allows_iff`: the bundles that the document allows.
-/

namespace Wordbook

open Json Schema

def Form.schemaAddress : Address := ⟨Bundle.schemaUri, "/definitions/lexemeForm"⟩

def Variant.schemaAddress : Address := ⟨Bundle.schemaUri, "/definitions/variant"⟩

/-- Schemas are read one rule at a time, so that a single rule stands in a list of its own. -/
def Form.readSchema : Schema :=
  .record ["variantId", "formTypeId", "text", "state"]
    [("formTypeId", all [.integer]),
     ("state", all [options [.string "typed", .string "generated"]]),
     ("text", all [maxLength 100, minLength 1, kinds [.string]]),
     ("variantId", all [maximum maxTemporaryId, .integer])]

def Variant.readSchema : Schema :=
  .record ["id", "orthographyId", "main", "dialectIds", "lexemeForms", "active", "action"]
    [("action", all [options [.string "insert"]]),
     ("active", all [kinds [.boolean]]),
     ("dialectIds", all [items (all [.integer]), kinds [.array], distinctItems]),
     ("id", all [maximum maxTemporaryId, .integer]),
     ("lexemeForms", all [items (reference Form.schemaAddress), minItems 1, kinds [.array]]),
     ("main", all [kinds [.boolean]]),
     ("orthographyId", all [.integer]),
     ("properties", Properties.schema)]

def Bundle.readSchema : Schema :=
  .record ["languageId", "language", "pos", "lineNumber", "action", "variants"]
    [("action", all [options [.string "insert"]]),
     ("language", .filled),
     ("languageId", all [.integer]),
     ("lineNumber", all [minimum (.whole 1), .integer]),
     ("pos", .filled),
     ("variants",
       all [contains (.record ["main"] [("main", all [constant (.bool true)])]),
         items (reference Variant.schemaAddress), minItems 1, kinds [.array]])]

def Bundle.closedSchema : Closed :=
  ⟨readSchema,
    [(Form.schemaAddress, Form.readSchema), (Variant.schemaAddress, Variant.readSchema)]⟩

namespace Bundle

theorem allows_schemaDocument : Dialect.closed.allows schemaDocument.normal := by
  decide +kernel

/-- The document is a schema as the schema of schemas has it, and refers to nothing but itself. -/
theorem ofJson?_schemaDocument : Closed.ofJson? schemaDocument.normal = some closedSchema := by
  have hread : Closed.ofLibrary?
      (Library.ofDocument defaultBase schemaDocument.normal ++ Dialect.library) defaultBase
      schemaDocument.normal = some closedSchema := rfl
  have hholds : (Library.ofDocument defaultBase schemaDocument.normal ++
      Dialect.library).holdsDocumentsOf defaultBase schemaDocument.normal = true := by
    decide +kernel
  rw [Closed.ofJson?, allows_schemaDocument, hholds]
  exact hread

end Bundle

/-- A form has no parts that are referred to. -/
theorem Form.violations_readSchema (meaning : Meaning) (v : Json) :
    readSchema.violations meaning v = schema.violations .none v := by
  simp only [readSchema, schema, record, integer, maxTemporaryId, violations_all,
    violations_members, List.flatMap_cons, List.flatMap_nil, List.append_nil]
  simp only [violations, violationsOfAll, List.append_nil]

theorem Variant.violations_readSchema {meaning : Meaning}
    (hform : ∀ w, meaning Form.schemaAddress w = Form.schema.violations .none w) (v : Json) :
    readSchema.violations meaning v = schema.violations .none v := by
  simp only [readSchema, schema, record, Properties.schema, integer, filled, maxTemporaryId,
    violations_all, violations_members, List.flatMap_cons, List.flatMap_nil, List.append_nil]
  simp only [violations, violationsOfAll, List.append_nil, hform]

theorem Bundle.violations_readSchema {meaning : Meaning}
    (hvariant : ∀ w, meaning Variant.schemaAddress w = Variant.schema.violations .none w)
    (v : Json) : readSchema.violations meaning v = schema.violations .none v := by
  simp only [readSchema, schema, record, Variant.mainSchema, integer, filled,
    violations_all, violations_members, List.flatMap_cons, List.flatMap_nil, List.append_nil]
  simp only [violations, violationsOfAll, violationsOfMembers, List.append_nil, hvariant]

namespace Bundle

/-- The references of the document lead from bundles to variants and from variants to forms. -/
theorem violations_closedSchema (v : Json) :
    closedSchema.violations v = schema.violations .none v := by
  have hform (n : Nat) (w : Json) : Closed.meaning closedSchema.table (n + 1) Form.schemaAddress w =
      Form.schema.violations .none w := Form.violations_readSchema _ w
  have hvariant (n : Nat) (w : Json) :
      Closed.meaning closedSchema.table (n + 2) Variant.schemaAddress w =
        Variant.schema.violations .none w := Variant.violations_readSchema (hform n) w
  -- No chain of references is longer than two, and a chain may be longer than that by far.
  obtain ⟨n, hn⟩ : ∃ n, closedSchema.steps v = n + 2 :=
    ⟨3 * (v.depth + 2) - 2, by rw [Closed.steps]; simp [closedSchema]; omega⟩
  rw [Closed.violations, hn]
  exact violations_readSchema (hvariant n) v

theorem messages_closedSchema (v : Json) : closedSchema.messages v = schema.messages v := by
  rw [Closed.messages, violations_closedSchema, Schema.messages]

theorem allows_closedSchema_iff {b : Bundle} : closedSchema.allows b.toJson ↔ b.IsValid := by
  rw [Closed.allows, violations_closedSchema, List.isEmpty_iff]
  exact allows_iff

/-- The document is a schema, by which everything is told that validation tells. It allows the
bundles that have nothing empty and a main variant, whose ids are temporary, and whose forms are
neither empty nor too long. -/
theorem document_allows_iff :
    ∃ closed, Closed.ofJson? schemaDocument.normal = some closed ∧
      (∀ v, closed.messages v = schema.messages v) ∧
      ∀ b : Bundle, closed.allows b.toJson ↔
        b.language ≠ "" ∧ b.pos ≠ "" ∧ 1 ≤ b.line ∧
        b.variants ≠ [] ∧ (∃ v ∈ b.variants, v.main) ∧
        ∀ v ∈ b.variants,
          v.id ≤ -1 ∧ v.dialectIds.isSome ∧ v.forms ≠ [] ∧
          (∀ e ∈ v.properties.entries, "" ∉ e.2) ∧
          ∀ f ∈ v.forms,
            (∃ id ∈ f.variantId, id ≤ -1) ∧ 1 ≤ f.text.length ∧ f.text.length ≤ 100 := by
  refine ⟨closedSchema, ofJson?_schemaDocument, messages_closedSchema, fun b => ?_⟩
  rw [allows_closedSchema_iff]
  constructor
  · rintro ⟨hlanguage, hpos, hline, ⟨v, hv, hmain⟩, hvariants⟩
    refine ⟨hlanguage, hpos, hline, List.ne_nil_of_mem hv, ⟨v, hv, hmain⟩, fun w hw => ?_⟩
    obtain ⟨hid, hdialects, hne, hforms, htags⟩ := hvariants w hw
    exact ⟨hid, hdialects, hne, htags, fun f hf => Form.isValid_iff f |>.1 (hforms f hf)⟩
  · rintro ⟨hlanguage, hpos, hline, -, hmain, hvariants⟩
    refine ⟨hlanguage, hpos, hline, hmain, fun w hw => ?_⟩
    obtain ⟨hid, hdialects, hne, htags, hforms⟩ := hvariants w hw
    exact ⟨hid, hdialects, hne, fun f hf => Form.isValid_iff f |>.2 (hforms f hf), htags⟩

end Bundle

end Wordbook
