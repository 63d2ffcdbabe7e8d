import Wordbook.Config
import Wordbook.Json.Reader
import Wordbook.Lexeme.Record

/-!
# Configurations in JSON

* `Config.ofText`: the configuration that a text holds, checked;
* `Config.toJson`: a configuration with every field written out.

A creator names its grammar and the options of the grammar among its own fields.
It has to be an object; what its other fields hold has to be readable.
-/

namespace Wordbook

open Json

def NounStyle.name : NounStyle → String
  | genusSuffix => "genus_suffix"
  | articlePrefix => "article_prefix"

def NounStyle.named : List (String × NounStyle) :=
  [("genus_suffix", genusSuffix), ("article_prefix", articlePrefix)]

/-- A style by its name, which may be the key of an object that holds nothing. -/
def NounStyle.ofJson? : Json → Option NounStyle
  | .object [(k, .object [])] => named.lookup k
  | v => choice? named v

/-- The names of the grammars. A grammar may also be given by its place in this list. -/
def Grammar.kinds : List String := ["noun", "verb", "misc", "multi"]

def Grammar.kind? (v : Json) : Option String :=
  match v with
  | .string s => if kinds.contains s then some s else none
  | v => v.count?.bind fun n => kinds[n]?

/-- The separator between lexemes where none is given. -/
def Grammar.defaultSeparator : Char := ';'

/-- The grammar among the fields of a creator. The options of other grammars are passed over. -/
def Grammar.ofMembers? (members : List (String × Json)) : Option Grammar := do
  if !namesOnce ["kind"] members then none
  let r : Record := ⟨false, members⟩
  match ← r.required "kind" kind? with
  | "noun" =>
    if !namesOnce ["notation"] members then none
    return noun (← r.defaulted "notation" .genusSuffix NounStyle.ofJson?)
  | "verb" => return verb
  | "misc" => return misc
  | _ =>
    if !namesOnce ["separator", "allowMultiWord"] members then none
    return multi (← r.defaulted "separator" defaultSeparator char?)
      (← r.defaulted "allowMultiWord" false bool?)

/-- The grammar and its options as fields of a creator. -/
def Grammar.toMembers : Grammar → List (String × Json)
  | noun style => [("kind", .string "noun"), ("notation", .string style.name)]
  | verb => [("kind", .string "verb")]
  | misc => [("kind", .string "misc")]
  | multi separator allowMultiWord =>
    [("kind", .string "multi"), ("separator", .string (String.singleton separator)),
      ("allowMultiWord", .bool allowMultiWord)]

/-- The depth that is left to the values in a creator, which stands inside five others. -/
def CreatorConfig.maxDepth : Nat := Json.maxDepth - 5

/-- The fields of a creator that are its own and not those of its grammar. -/
def CreatorConfig.ownFields : List String := ["pos", "column", "dialectColumn"]

/-- The members of a creator that may belong to its grammar. -/
def CreatorConfig.grammarMembers (members : List (String × Json)) : List (String × Json) :=
  members.filter fun m => !ownFields.contains m.1

def CreatorConfig.ofJson? : Json → Option CreatorConfig
  | .object ms => do
    if !namesOnce ownFields ms then none
    let rest := grammarMembers ms
    if !rest.all fun m => m.2.isReadable && m.2.depth ≤ maxDepth then none
    let r : Record := ⟨false, ms⟩
    return {
      tag := ← r.required "pos" text?
      grammar := ← Grammar.ofMembers? rest
      column := ← r.required "column" count?
      dialectColumn := ← r.optional "dialectColumn" count? }
  | _ => none

def CreatorConfig.toJson (c : CreatorConfig) : Json :=
  .object ([("pos", .string c.tag)] ++ c.grammar.toMembers ++
    [("column", ofCount c.column), ("dialectColumn", ofOption ofCount c.dialectColumn)])

def ProviderConfig.ofJson? (v : Json) : Option ProviderConfig := do
  let r ← v.record? ["language", "orthographyId", "defaultDialects", "dialects", "creators"]
  return {
    language := ← r.required "language" text?
    orthographyId := ← r.required "orthographyId" int64?
    defaultDialects := ← r.defaulted "defaultDialects" ∅ (set? int64?)
    dialects := ← r.defaulted "dialects" ∅ (map? int64?)
    creators := ← r.required "creators" (list? CreatorConfig.ofJson?) }

def ProviderConfig.toJson (p : ProviderConfig) : Json :=
  .object [("language", .string p.language), ("orthographyId", ofInt64 p.orthographyId),
    ("defaultDialects", ofSet ofInt64 p.defaultDialects), ("dialects", ofMap ofInt64 p.dialects),
    ("creators", ofList CreatorConfig.toJson p.creators)]

def PosConfig.ofJson? (v : Json) : Option PosConfig := do
  let r ← v.record? ["id", "tag", "slots"]
  return {
    id := ← r.required "id" int64?
    tag := ← r.required "tag" text?
    slots := ← r.defaulted "slots" [] (list? Slot.ofJson?) }

def PosConfig.toJson (p : PosConfig) : Json :=
  .object [("id", ofInt64 p.id), ("tag", .string p.tag), ("slots", ofList Slot.toJson p.slots)]

def ReferenceConfig.ofJson? (v : Json) : Option ReferenceConfig := do
  let r ← v.record? ["languages", "partsOfSpeech"]
  return {
    languages := ← r.defaulted "languages" [] (list? Language.ofJson?)
    partsOfSpeech := ← r.defaulted "partsOfSpeech" [] (list? PosConfig.ofJson?) }

def ReferenceConfig.toJson (r : ReferenceConfig) : Json :=
  .object [("languages", ofList Language.toJson r.languages),
    ("partsOfSpeech", ofList PosConfig.toJson r.partsOfSpeech)]

namespace Config

/-- The separator between cells where none is given. -/
def defaultSeparator : Char := '\t'

def ofJson? (v : Json) : Option Config := do
  let r ← v.record? ["separator", "columnCount", "minColumnCount", "skipLines", "posColumn",
    "reference", "providers"]
  return {
    separator := ← r.defaulted "separator" defaultSeparator char?
    columnCount := ← r.required "columnCount" count?
    minColumnCount := ← r.defaulted "minColumnCount" 0 count?
    skipLines := ← r.defaulted "skipLines" ∅ (set? count?)
    posColumn := ← r.required "posColumn" count?
    reference := ← r.required "reference" ReferenceConfig.ofJson?
    providers := ← r.required "providers" (list? ProviderConfig.ofJson?) }

def toJson (c : Config) : Json :=
  .object [("separator", .string (String.singleton c.separator)),
    ("columnCount", ofCount c.columnCount), ("minColumnCount", ofCount c.minColumnCount),
    ("skipLines", ofSet ofCount c.skipLines), ("posColumn", ofCount c.posColumn),
    ("reference", c.reference.toJson), ("providers", ofList ProviderConfig.toJson c.providers)]

/-- The configuration that a text holds. -/
def ofText (t : List Char) : Except ConfigError Config :=
  match (Json.read? t).bind ofJson? with
  | some c => c.check
  | none => .error .malformed

end Config

end Wordbook
