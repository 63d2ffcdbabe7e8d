import Wordbook.Json
import Wordbook.Order.SortedSet

/-!
# Records in JSON

How a record is read from a JSON value: from an object with a member for each
field, in any order, or from an array with the fields in their order. Members
that name no field are passed over; a field that is given twice is refused.

* `Record.required`, `Record.defaulted`, `Record.optional`: the three kinds of
  field.
-/

namespace Wordbook

/-- The fields of a record as they are given. -/
structure Json.Record where
  /-- Whether the fields are given by their places in an array. -/
  byPlace : Bool
  fields : List (String × Json)

namespace Json

/-- Whether no two members have the same one of these names for a key. -/
def namesOnce (names : List String) (members : List (String × Json)) : Bool :=
  names.all fun name => members.countP (·.1 == name) ≤ 1

/-- The fields of a record with these names. -/
def record? (names : List String) : Json → Option Record
  | object ms => if namesOnce names ms then some ⟨false, ms⟩ else none
  | array vs => if vs.length ≤ names.length then some ⟨true, names.zip vs⟩ else none
  | _ => none

namespace Record

variable {α : Type}

def field? (r : Record) (name : String) : Option Json := r.fields.lookup name

/-- A field that has to be given. -/
def required (r : Record) (name : String) (read : Json → Option α) : Option α :=
  (r.field? name).bind read

/-- A field with a value of its own where it is not given. -/
def defaulted (r : Record) (name : String) (default : α) (read : Json → Option α) : Option α :=
  match r.field? name with
  | some v => read v
  | none => some default

/-- What an optional field holds. -/
def readOptional (read : Json → Option α) : Json → Option (Option α)
  | .null => some none
  | v => (read v).map some

/-- A field that may be null or, in an object, be missing. -/
def optional (r : Record) (name : String) (read : Json → Option α) : Option (Option α) :=
  match r.field? name with
  | some v => readOptional read v
  | none => if r.byPlace then none else some none

end Record

variable {α : Type}

def list? (read : Json → Option α) : Json → Option (List α)
  | array vs => vs.mapM read
  | _ => none

/-- The set of the elements of an array, in any order and with repetitions. -/
def set? [LT α] [DecidableLT α]
    [Trans (fun a b : α => a < b) (fun a b : α => a < b) (fun a b : α => a < b)]
    (read : Json → Option α) (v : Json) : Option (SortedSet α) :=
  (v.list? read).map SortedSet.ofList

/-- A key and its value, read from a member of an object. -/
def pair? (read : Json → Option α) (m : String × Json) : Option (String × α) :=
  (read m.2).map fun a => (m.1, a)

/-- The map of an object. Of members with the same key the last one counts, and all are read. -/
def map? (read : Json → Option α) : Json → Option (SortedMap String α)
  | object ms => (ms.mapM (pair? read)).map SortedMap.ofList
  | _ => none

/-- One of some named values: its name, or an object whose only member has it for a key and null
for a value. -/
def choice? (choices : List (String × α)) : Json → Option α
  | string s => choices.lookup s
  | object [(k, null)] => choices.lookup k
  | _ => none

def ofList (write : α → Json) (l : List α) : Json := array (l.map write)

def ofOption (write : α → Json) : Option α → Json
  | some a => write a
  | none => null

def ofInt64 (n : Int64) : Json := whole n.toInt

def ofCount (n : Nat) : Json := whole n

def ofSet [LT α] (write : α → Json) (s : SortedSet α) : Json := ofList write s.toList

def ofMap (write : α → Json) (m : SortedMap String α) : Json :=
  object (m.entries.map fun (k, a) => (k, write a))

end Json

end Wordbook
