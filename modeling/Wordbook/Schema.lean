import Wordbook.Json.Reader
import Wordbook.Schema.Format
import Wordbook.Schema.Violation
import Wordbook.Text.Base64

/-!
# Schemas of JSON values

The rules of a JSON schema. A rule for one kind of values says nothing about the
others. A schema may refer to others by their addresses; what they say is given
by a `Meaning`.

* `Schema.violations`: the rules that a value breaks, in the order of the schema;
* `Schema.Closed`: a schema with all the schemas that are referred to;
* `Schema.messages`, `Schema.Closed.messages`: the violations as texts.
-/

namespace Wordbook

/-- Where a schema is to be found. -/
structure Schema.Address where
  /-- The URI of a document. -/
  document : String
  /-- The place in it: empty, or a name, or a pointer. -/
  place : String
  deriving DecidableEq, Repr

inductive Schema where
  /-- Every schema of a list. None at all allows everything. -/
  | all (schemas : List Schema)
  | nothing
  | reference (address : Schema.Address)
  /-- Some schema of a list. -/
  | anyOf (schemas : List Schema)
  /-- Just one schema of a list. -/
  | oneOf (schemas : List Schema)
  /-- What does not obey a schema, which is written as given. -/
  | except (source : Json) (schema : Schema)
  /-- The one or the other schema, as a condition has it. -/
  | conditional (condition yes no : Schema)
  | kinds (kinds : List Json.Kind)
  | constant (expected : Json)
  | options (options : List Json)
  | minimum (limit : Json.Number)
  | maximum (limit : Json.Number)
  | moreThan (limit : Json.Number)
  | lessThan (limit : Json.Number)
  | multipleOf (factor : Json.Number)
  | minLength (limit : Nat)
  | maxLength (limit : Nat)
  /-- A text that a pattern occurs in, which is written as given. -/
  | matching (source : String) (pattern : Pattern)
  | formatted (name : String) (format : Format)
  /-- A text that is written in base 64. -/
  | base64Text (name : String)
  /-- A text that holds JSON, itself or in base 64 by another name. -/
  | jsonText (name : String) (encoding : Option String)
  | minItems (limit : Nat)
  | maxItems (limit : Nat)
  | distinctItems
  /-- What every element of an array has to be. -/
  | items (schema : Schema)
  /-- What the elements of an array have to be, each by its place. -/
  | tuple (schemas : List Schema)
  /-- What the elements of an array have to be behind the first ones. -/
  | furtherItems (count : Nat) (schema : Schema)
  | noFurtherItems (count : Nat)
  /-- What some element of an array has to be. -/
  | contains (schema : Schema)
  | minMembers (limit : Nat)
  | maxMembers (limit : Nat)
  | required (names : List String)
  /-- What the members of an object with some names have to be, where it has them. -/
  | members (schemas : List (String × Schema))
  /-- What the members of an object have to be with names that some patterns occur in. -/
  | patternMembers (schemas : List (Pattern × Schema))
  /-- What the members of an object have to be that have none of the names, and a name that none
  of the patterns occurs in. -/
  | otherMembers (names : List String) (patterns : List Pattern) (schema : Schema)
  | noOtherMembers (names : List String) (patterns : List Pattern)
  /-- No members at all. Only the first one is told. -/
  | noMembers
  /-- What the names of the members of an object have to be. -/
  | memberNames (schema : Schema)
  | noMemberNames
  /-- What an object has to be if it has members with some names. -/
  | dependencies (schemas : List (String × Schema))

namespace Schema

/-- The violations of a rule for numbers. -/
def numberRule (broken : Json.Number → Bool) (violation : Violation) : Json → List Violation
  | .number n => if broken n then [violation] else []
  | _ => []

/-- The violations of a rule for texts. -/
def textRule (broken : String → Bool) (violation : Violation) : Json → List Violation
  | .string s => if broken s then [violation] else []
  | _ => []

/-- The violations of a rule for arrays as a whole. -/
def arrayRule (broken : List Json → Bool) (violation : Violation) : Json → List Violation
  | .array vs => if broken vs then [violation] else []
  | _ => []

/-- The violations of a rule for objects as a whole. -/
def objectRule (broken : List (String × Json) → Bool) (violation : Violation) :
    Json → List Violation
  | .object ms => if broken ms then [violation] else []
  | _ => []

/-- The names that an object has no member for. -/
def missingNames (names : List String) : Json → List String
  | .object ms => names.filter fun name => (ms.lookup name).isNone
  | _ => []

def elementsOf : Json → List Json
  | .array vs => vs
  | _ => []

def membersOf : Json → List (String × Json)
  | .object ms => ms
  | _ => []

/-- The members of an object that have none of the names, and a name that none of the patterns
occurs in. -/
def othersOf (names : List String) (patterns : List Pattern) (v : Json) : List (String × Json) :=
  (membersOf v).filter fun m =>
    !names.contains m.1 && !patterns.any fun p => p.occursIn m.1.toList

/-- The members of an object with names that a pattern occurs in. -/
def matchesOf (pattern : Pattern) (v : Json) : List (String × Json) :=
  (membersOf v).filter fun m => pattern.occursIn m.1.toList

def extraItemsOf (count : Nat) (v : Json) : List Violation :=
  match (elementsOf v).drop count with
  | [] => []
  | extra => [.extraItems extra]

def extraMembersOf (names : List String) (patterns : List Pattern) (v : Json) : List Violation :=
  match othersOf names patterns v with
  | [] => []
  | extra => [.extraMembers (extra.map Prod.fst)]

def holdsJson (t : List Char) : Bool := (Json.readStrict? t).isSome

/-- The violations of a text that ought to hold JSON, itself or in base 64 by another name. -/
def contentViolations (name : String) (encoding : Option String) : Json → List Violation
  | .string s =>
    match encoding with
    | none => if holdsJson s.toList then [] else [.wrongContent (.string s) name]
    | some encoding =>
      match Text.base64Bytes? s.toList with
      | none => [.wrongEncoding (.string s) encoding]
      | some bytes =>
        if ((Text.readUtf8? bytes).map holdsJson).getD false then []
        else [.wrongContent (.string s) name]
  | _ => []

/-! ## Violations -/

/-- The rules that a normal value breaks of the schemas that are referred to. -/
abbrev Meaning := Address → Json → List Violation

/-- What references mean where there are none. -/
def Meaning.none : Meaning := fun _ _ => []

mutual

/-- The rules that a normal value breaks. -/
def violations (meaning : Meaning) : Schema → Json → List Violation
  | all schemas, v => violationsOfAll meaning schemas v
  | nothing, v => [.notAllowed v]
  | reference address, v => meaning address v
  | anyOf schemas, v => if fitting meaning schemas v = 0 then [.fitsNone "anyOf" v] else []
  | oneOf schemas, v =>
    match fitting meaning schemas v with
    | 0 => [.fitsNone "oneOf" v]
    | 1 => []
    | _ => [.fitsSeveral "oneOf" v]
  | except source schema, v =>
    if (violations meaning schema v).isEmpty then [.excluded source v] else []
  | conditional condition yes no, v =>
    if (violations meaning condition v).isEmpty then violations meaning yes v
    else violations meaning no v
  | kinds ks, v => if ks.any v.isOf then [] else [.wrongKind v ks]
  | constant expected, v => if v.same expected then [] else [.notExpected expected]
  | options vs, v => if vs.any v.same then [] else [.noOption v vs]
  | minimum limit, v => numberRule (·.less limit) (.belowMinimum v limit) v
  | maximum limit, v => numberRule limit.less (.aboveMaximum v limit) v
  | moreThan limit, v => numberRule (fun n => !limit.less n) (.notAbove v limit) v
  | lessThan limit, v => numberRule (fun n => !n.less limit) (.notBelow v limit) v
  | multipleOf factor, v => numberRule (fun n => !n.isMultipleOf factor) (.noMultiple v factor) v
  | minLength limit, v => textRule (·.length < limit) (.shorter v limit) v
  | maxLength limit, v => textRule (limit < ·.length) (.longer v limit) v
  | matching source pattern, v =>
    textRule (fun s => !pattern.occursIn s.toList) (.noMatch v source) v
  | formatted name format, v =>
    textRule (fun s => !format.holdsOf s.toList) (.wrongFormat v name) v
  | base64Text name, v =>
    textRule (fun s => (Text.base64Bytes? s.toList).isNone) (.wrongEncoding v name) v
  | jsonText name encoding, v => contentViolations name encoding v
  | minItems limit, v => arrayRule (·.length < limit) (.fewerItems v limit) v
  | maxItems limit, v => arrayRule (limit < ·.length) (.moreItems v limit) v
  | distinctItems, v => arrayRule (!Json.allDistinct ·) (.repeatedItems v) v
  | items schema, v => (elementsOf v).flatMap fun w => violations meaning schema w
  | tuple schemas, v => violationsOfTuple meaning schemas (elementsOf v)
  | furtherItems count schema, v =>
    ((elementsOf v).drop count).flatMap fun w => violations meaning schema w
  | noFurtherItems count, v => extraItemsOf count v
  | contains schema, v =>
    arrayRule (fun vs => !vs.any fun w => (violations meaning schema w).isEmpty)
      (.containsNone v) v
  | minMembers limit, v => objectRule (·.length < limit) (.fewerMembers v limit) v
  | maxMembers limit, v => objectRule (limit < ·.length) (.moreMembers v limit) v
  | required names, v => (missingNames names v).map .missing
  | members schemas, v => violationsOfMembers meaning schemas v
  | patternMembers schemas, v => violationsOfPatterns meaning schemas v
  | otherMembers names patterns schema, v =>
    (othersOf names patterns v).flatMap fun m => violations meaning schema m.2
  | noOtherMembers names patterns, v => extraMembersOf names patterns v
  | noMembers, v => ((membersOf v).take 1).map fun m => .notAllowed m.2
  | memberNames schema, v =>
    (membersOf v).flatMap fun m => violations meaning schema (.string m.1)
  | noMemberNames, v => objectRule (!·.isEmpty) (.notAllowed v) v
  | dependencies schemas, v => violationsOfDependencies meaning schemas v

def violationsOfAll (meaning : Meaning) : List Schema → Json → List Violation
  | [], _ => []
  | schema :: schemas, v =>
    violations meaning schema v ++ violationsOfAll meaning schemas v

/-- The number of schemas that a value obeys. -/
def fitting (meaning : Meaning) : List Schema → Json → Nat
  | [], _ => 0
  | schema :: schemas, v =>
    (if (violations meaning schema v).isEmpty then 1 else 0) + fitting meaning schemas v

def violationsOfTuple (meaning : Meaning) : List Schema → List Json → List Violation
  | schema :: schemas, v :: vs =>
    violations meaning schema v ++ violationsOfTuple meaning schemas vs
  | _, _ => []

def violationsOfMembers (meaning : Meaning) : List (String × Schema) → Json → List Violation
  | [], _ => []
  | (name, schema) :: schemas, v =>
    let found := match v.member? name with
      | some w => violations meaning schema w
      | none => []
    found ++ violationsOfMembers meaning schemas v

def violationsOfPatterns (meaning : Meaning) : List (Pattern × Schema) → Json → List Violation
  | [], _ => []
  | (pattern, schema) :: schemas, v =>
    ((matchesOf pattern v).flatMap fun m => violations meaning schema m.2) ++
      violationsOfPatterns meaning schemas v

def violationsOfDependencies (meaning : Meaning) : List (String × Schema) → Json → List Violation
  | [], _ => []
  | (name, schema) :: schemas, v =>
    (if (v.member? name).isSome then violations meaning schema v else []) ++
      violationsOfDependencies meaning schemas v

end

theorem violations_all (meaning : Meaning) (schemas : List Schema) (v : Json) :
    violations meaning (all schemas) v = schemas.flatMap fun s => violations meaning s v := by
  rw [violations]
  induction schemas with
  | nil => rfl
  | cons s schemas ih => rw [violationsOfAll, ih, List.flatMap_cons]

theorem violations_members (meaning : Meaning) (schemas : List (String × Schema)) (v : Json) :
    violations meaning (members schemas) v =
      schemas.flatMap fun s => (v.member? s.1).elim [] (violations meaning s.2) := by
  rw [violations]
  induction schemas with
  | nil => rfl
  | cons s schemas ih =>
    obtain ⟨name, s⟩ := s
    rw [violationsOfMembers, ih, List.flatMap_cons]
    cases v.member? name <;> rfl

/-- The rules that a value breaks of a schema that refers to no other, as texts. -/
def messages (schema : Schema) (v : Json) : List String :=
  (schema.violations .none v.normal).map Violation.message

/-! ## Closed schemas -/

/-- A schema, and the schemas that it and they refer to. -/
structure Closed where
  main : Schema
  table : List (Address × Schema)

namespace Closed

/-- What references mean that lead from one to the next at most a number of times. -/
def meaning (table : List (Address × Schema)) : Nat → Meaning
  | 0, _, _ => []
  | steps + 1, address, v =>
    match table.lookup address with
    | some schema => schema.violations (meaning table steps) v
    | none => []

/-- The references that can lead to one another before a loop is closed: all of them at each level
of a value, and at the names of its members. -/
def steps (c : Closed) (v : Json) : Nat := (c.table.length + 1) * (v.depth + 2)

/-- The rules that a normal value breaks. -/
def violations (c : Closed) (v : Json) : List Violation :=
  c.main.violations (meaning c.table (c.steps v)) v

/-- The rules that a value breaks, as texts. -/
def messages (c : Closed) (v : Json) : List String :=
  (c.violations v.normal).map Violation.message

def allows (c : Closed) (v : Json) : Bool := (c.violations v.normal).isEmpty

end Closed

end Schema

end Wordbook
