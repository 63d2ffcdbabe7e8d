import Wordbook.Schema.Document

/-!
# Schemas in JSON

A schema is a truth value, or an object whose members are its rules
(`Schema.ofJson?`). A member that is no rule is passed over, and a rule that is
not well formed makes the schema unfit for use. A schema with a reference has no
other rules.

* `Schema.ofJson?`: the schema of a value;
* `Schema.Closed.ofLibrary?`: a schema with all that it refers to.
-/

namespace Wordbook.Schema

open Json

/-- The texts of an array, none twice. -/
def names? (v : Json) : Option (List String) := do
  let vs ← v.elements?
  if allDistinct vs then vs.mapM text? else none

/-- Some kinds, at least one and none twice, or a single kind. They are put in order. -/
def kinds? : Json → Option Schema
  | .string s => (Kind.ofName? s).map fun kind => kinds [kind]
  | v => do
    let found ← (← names? v).mapM Kind.ofName?
    if found.isEmpty then none else some (kinds (Kind.all.filter found.contains))

def limit? : Json → Option Number
  | .number n => some n
  | _ => none

/-- The greatest length that a rule can ask for. A greater one counts as this one. -/
def maxLimit : Nat := UInt64.size - 1

/-- A length, which may be written with a fraction of zero. -/
def length? : Json → Option Nat
  | .number n =>
    let (m, d) := n.value
    if n.isWhole && 0 ≤ m then some (min (m / d).toNat maxLimit) else none
  | _ => none

/-- The rule of a pattern. -/
def matching? (source : String) : Option Schema :=
  (Pattern.ofText? source.toList).map (matching source)

/-- The rule of a format, unless it asks for nothing. -/
def formats (name : String) : List Schema :=
  ((Format.ofName? name).map (formatted name)).toList

/-- The one encoding of texts that is checked. -/
def base64Name : String := "base64"

/-- The one content of texts that is checked. -/
def jsonName : String := "application/json"

/-- The rules of a text that has a content, where another member may name its encoding. -/
def contents (encoding : Option Json) (name : String) : List Schema :=
  if name != jsonName then []
  else
    match encoding with
    | none => [jsonText name none]
    | some (.string encoding) =>
      if encoding == base64Name then [jsonText name (some encoding)] else []
    | some _ => []

/-- The rules of a text that has an encoding, unless it has a content too. -/
def encodings (content : Option Json) (name : String) : List Schema :=
  if content.isNone && name == base64Name then [base64Text name] else []

/-- A rule that holds no schema, beside the others. -/
def plainRule? (rules : List (String × Json)) (keyword : String) (v : Json) :
    Option (List Schema) :=
  match keyword with
  | "type" => (kinds? v).map ([·])
  | "const" => some [constant v]
  | "enum" => v.elements?.map ([options ·])
  | "minimum" => (limit? v).map ([minimum ·])
  | "maximum" => (limit? v).map ([maximum ·])
  | "exclusiveMinimum" => (limit? v).map ([moreThan ·])
  | "exclusiveMaximum" => (limit? v).map ([lessThan ·])
  | "multipleOf" => (limit? v).map ([multipleOf ·])
  | "minLength" => (length? v).map ([minLength ·])
  | "maxLength" => (length? v).map ([maxLength ·])
  | "pattern" => (v.text?.bind matching?).map ([·])
  | "format" => v.text?.map formats
  | "contentMediaType" => v.text?.map (contents (rules.lookup "contentEncoding"))
  | "contentEncoding" => v.text?.map (encodings (rules.lookup "contentMediaType"))
  | "minItems" => (length? v).map ([minItems ·])
  | "maxItems" => (length? v).map ([maxItems ·])
  | "uniqueItems" => v.bool?.map fun b => if b then [distinctItems] else []
  | "minProperties" => (length? v).map ([minMembers ·])
  | "maxProperties" => (length? v).map ([maxMembers ·])
  | "required" => (names? v).map ([required ·])
  | _ => some []

/-! ## Rules that hold schemas -/

/-- The schemas that a member of a schema holds. -/
inductive Part where
  | nothing
  | one (schema : Schema)
  | several (schemas : List Schema)
  | named (schemas : List (String × Schema))

/-- The names of what a member of a schema holds. -/
def namesIn (rules : List (String × Json)) (keyword : String) : List String :=
  match rules.lookup keyword with
  | some (.object ms) => ms.map Prod.fst
  | _ => []

/-- The patterns that members with rules of their own are found by. -/
def patternsIn? (rules : List (String × Json)) : Option (List Pattern) :=
  (namesIn rules "patternProperties").mapM fun name => Pattern.ofText? name.toList

/-- The rules for the members of an object that have none of their own. -/
def otherRules? (rules : List (String × Json)) (part : Part) : Json → Option (List Schema)
  | .bool true => some []
  | .bool false =>
    if (rules.lookup "properties").isNone && (rules.lookup "patternProperties").isNone then
      some [noMembers]
    else (patternsIn? rules).map fun ps => [noOtherMembers (namesIn rules "properties") ps]
  | _ =>
    match part with
    | .one schema =>
      (patternsIn? rules).map fun ps => [otherMembers (namesIn rules "properties") ps schema]
    | _ => none

/-- The rules for the elements of an array behind those that have rules by their places. -/
def furtherRules (rules : List (String × Json)) (v : Json) (part : Part) : List Schema :=
  match rules.lookup "items" with
  | some (.array vs) =>
    match v, part with
    | .bool true, _ => []
    | .bool false, _ => [noFurtherItems vs.length]
    | _, .one schema => [furtherItems vs.length schema]
    | _, _ => []
  | _ => []

/-- The rules for the names of the members of an object. -/
def nameRules (v : Json) (schema : Schema) : List Schema :=
  match v with
  | .bool true => []
  | .bool false => [noMemberNames]
  | _ => [memberNames schema]

/-- The schema of a member that may be missing. -/
def branch (parts : List (String × Part)) (keyword : String) : Option Schema :=
  match parts.lookup keyword with
  | some (.one schema) => some schema
  | _ => none

/-- A condition, unless nothing depends on it. -/
def conditions (parts : List (String × Part)) (condition : Schema) : List Schema :=
  match branch parts "then", branch parts "else" with
  | none, none => []
  | yes, no => [conditional condition (yes.getD (all [])) (no.getD (all []))]

/-- The rules of a member, beside the others. -/
def rule? (rules : List (String × Json)) (parts : List (String × Part)) (keyword : String)
    (v : Json) (part : Part) : Option (List Schema) :=
  match keyword, part with
  | "items", .one schema => some [items schema]
  | "items", .several schemas => some [tuple schemas]
  | "additionalItems", part => some (furtherRules rules v part)
  | "additionalProperties", part => otherRules? rules part v
  | "contains", .one schema => some [contains schema]
  | "not", .one schema => some [except v schema]
  | "propertyNames", .one schema => some (nameRules v schema)
  | "if", .one schema => some (conditions parts schema)
  | "allOf", .several schemas => some [all schemas]
  | "anyOf", .several schemas => some [anyOf schemas]
  | "oneOf", .several schemas => some [oneOf schemas]
  | "properties", .named schemas => some [members schemas]
  | "dependencies", .named schemas => some [dependencies schemas]
  | "patternProperties", .named schemas =>
    (patternsIn? rules).map fun ps => [patternMembers (ps.zip (schemas.map Prod.snd))]
  | keyword, _ => plainRule? rules keyword v

/-- Whether a keyword holds one schema, and not several. -/
def holdsOne (keyword : String) (v : Json) : Bool :=
  schemaKeywords.contains keyword && (keyword != "items" || v.elements?.isNone)

/-- The rules of the members of a schema. -/
def rules? (rules : List (String × Json)) (parts : List (String × Part)) :
    Option (List (List Schema)) :=
  (rules.zip parts).mapM fun ((keyword, v), (_, part)) => rule? rules parts keyword v part

mutual

/-- The schema of a normal value, in a document. -/
def ofJson? (base : Uri) : Json → Option Schema
  | .bool true => some (all [])
  | .bool false => some nothing
  | .object rules =>
    match rules.lookup "$ref" with
    | some v => do return reference (← Address.ofReference? base (← v.text?))
    | none => do
      let parts ← parts? (Located.innerBase base (.object rules)) rules
      return all (← rules? rules parts).flatten
  | _ => none

/-- The schemas that the members of a schema hold. Of definitions, none counts that nothing refers
to. -/
def parts? (base : Uri) : List (String × Json) → Option (List (String × Part))
  | [] => some []
  | (keyword, v) :: rest => do
    let part ←
      if holdsOne keyword v then (ofJson? base v).map Part.one
      else if listKeywords.contains keyword then
        match v with
        | .array vs => (several? base vs).map Part.several
        | _ => none
      else if namedKeywords.contains keyword && keyword != "definitions" then
        match v with
        | .object ms => (named? base ms).map Part.named
        | _ => none
      else some Part.nothing
    return (keyword, part) :: (← parts? base rest)

/-- The schemas of the elements of an array. -/
def several? (base : Uri) : List Json → Option (List Schema)
  | [] => some []
  | v :: vs => do return (← ofJson? base v) :: (← several? base vs)

/-- The schemas of the members of an object. A list of names asks for members with these names. -/
def named? (base : Uri) : List (String × Json) → Option (List (String × Schema))
  | [] => some []
  | (name, .array vs) :: rest => do
    return (name, required (← names? (.array vs))) :: (← named? base rest)
  | (name, v) :: rest => do return (name, ← ofJson? base v) :: (← named? base rest)

end

/-! ## References -/

mutual

/-- The addresses that a schema refers to. -/
def addresses : Schema → List Address
  | reference address => [address]
  | all schemas | anyOf schemas | oneOf schemas | tuple schemas => addressesOf schemas
  | except _ schema | items schema | furtherItems _ schema | contains schema
  | otherMembers _ _ schema | memberNames schema => addresses schema
  | conditional condition yes no => addresses condition ++ addresses yes ++ addresses no
  | members schemas | dependencies schemas => addressesOfNamed schemas
  | patternMembers schemas => addressesOfPatterns schemas
  | _ => []

def addressesOf : List Schema → List Address
  | [] => []
  | schema :: schemas => addresses schema ++ addressesOf schemas

def addressesOfNamed : List (String × Schema) → List Address
  | [] => []
  | (_, schema) :: schemas => addresses schema ++ addressesOfNamed schemas

def addressesOfPatterns : List (Pattern × Schema) → List Address
  | [] => []
  | (_, schema) :: schemas => addresses schema ++ addressesOfPatterns schemas

end

namespace Closed

/-- A table with all the schemas at some addresses and at those that they refer to. The fuel bounds
the addresses that are looked at. -/
def table? (library : Library) (table : List (Address × Schema)) :
    Nat → List Address → Option (List (Address × Schema))
  | _, [] => some table
  | 0, _ => none
  | fuel + 1, address :: rest =>
    if (table.lookup address).isSome then table? library table fuel rest
    else do
      let l ← library.find? address
      let schema ← ofJson? l.base l.value
      table? library ((address, schema) :: table) fuel (schema.addresses ++ rest)

/-- More than the references that a document can hold. -/
def fuel (library : Library) : Nat :=
  let size := library.foldl (fun n (_, l) => n + Json.size l.value + 1) 0
  size * size

/-- A schema with all that it refers to in a library. -/
def ofLibrary? (library : Library) (base : Uri) (v : Json) : Option Closed := do
  let main ← ofJson? base v
  return ⟨main, ← table? library [] (fuel library) main.addresses⟩

end Closed

end Wordbook.Schema
