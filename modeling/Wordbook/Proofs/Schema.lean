import Wordbook.Lexeme.Schema

/-!
# What schemas allow

The rules of a schema, one lemma each: what a value of the right kind has to be
for a rule to be obeyed.

* `Schema.Allows`: a normal value breaks no rule of a schema;
* `Schema.allows_record_iff`: a record may give its members in any order.
-/

namespace Wordbook

namespace Json

@[simp] theorem normal_null : normal null = null := rfl

@[simp] theorem normal_bool (b : Bool) : (bool b).normal = bool b := rfl

@[simp] theorem normal_number (n : Number) : (number n).normal = number n := rfl

@[simp] theorem normal_string (s : String) : (string s).normal = string s := rfl

@[simp] theorem normal_array (vs : List Json) : (array vs).normal = array (vs.map normal) := by
  rw [normal]
  congr
  induction vs with
  | nil => rfl
  | cons v vs ih => rw [normalAll, ih, List.map_cons]

@[simp] theorem normal_ofList {α : Type} (write : α → Json) (as : List α) :
    (ofList write as).normal = array (as.map fun a => (write a).normal) := by
  rw [ofList, normal_array, List.map_map]
  rfl

theorem normalMembers_eq_map (ms : List (String × Json)) :
    normalMembers ms = ms.map fun m => (m.1, m.2.normal) := by
  induction ms with
  | nil => rfl
  | cons m ms ih => rw [normalMembers, ih, List.map_cons]

theorem lookup_map_normal (ms : List (String × Json)) (name : String) :
    (ms.map fun m => (m.1, m.2.normal)).lookup name = (ms.lookup name).map normal := by
  induction ms with
  | nil => rfl
  | cons m ms ih =>
    obtain ⟨k, v⟩ := m
    simp only [List.map_cons, SortedMap.lookup_cons_eq_ite, ih]
    split <;> rfl

/-- Of members with the same name the last one counts. -/
theorem member?_normal (ms : List (String × Json)) (name : String) :
    (object ms).normal.member? name = (ms.reverse.lookup name).map normal := by
  have hget := SortedMap.get?_ofList (normalMembers ms) name
  rw [normalMembers_eq_map, ← List.map_reverse, lookup_map_normal, ← normalMembers_eq_map] at hget
  exact hget

/-- The members of a map come in order already. -/
theorem normal_ofMap {α : Type} (write : α → Json) (m : SortedMap String α) :
    (ofMap write m).normal = object (m.entries.map fun e => (e.1, (write e.2).normal)) := by
  have hascending : (m.entries.map fun e => (e.1, (write e.2).normal)).Pairwise
      fun a b => a.1 < b.1 := List.pairwise_map.2 m.ascending
  rw [ofMap, normal, normalMembers_eq_map, List.map_map]
  exact congrArg object (SortedMap.entries_ofList hascending)

/-- A normal value stays as it is. -/
theorem normal_normal (v : Json) : v.normal.normal = v.normal := by
  cases v with
  | null | bool | number | string | unreadable => rfl
  | array vs =>
    rw [normal_array, normal_array, List.map_map]
    exact congrArg array (List.map_congr_left fun v hv => v.normal_normal)
  | object ms =>
    have hvalues : ∀ e ∈ (SortedMap.ofList (normalMembers ms)).entries, e.2.normal = e.2 := by
      intro e he
      have hmem := SortedMap.mem_of_mem_ofList he
      rw [normalMembers_eq_map] at hmem
      obtain ⟨m, hm, rfl⟩ := List.mem_map.1 hmem
      exact m.2.normal_normal
    rw [normal, normal, normalMembers_eq_map (SortedMap.ofList _).entries,
      List.map_congr_left fun e he => by rw [hvalues e he]]
    rw [List.map_id', SortedMap.entries_ofList (SortedMap.ascending _)]
termination_by v
decreasing_by
  · have hv := List.sizeOf_lt_of_mem hv
    rw [array.sizeOf_spec]
    omega
  · have hm := List.sizeOf_lt_of_mem hm
    have hvalue : sizeOf m.2 < sizeOf m := by
      rw [Prod.mk.sizeOf_spec]
      omega
    rw [object.sizeOf_spec]
    omega

/-- Different whole numbers are told apart. -/
def Number.TellsApart (eq : Number → Number → Bool) : Prop :=
  ∀ m n : Int, eq (.whole m) (.whole n) → m = n

theorem Number.tellsApart_same : TellsApart Number.same := by
  intro m n h
  have hle : n ≤ m ∧ m ≤ n := by simpa [same, less, value] using h
  omega

theorem Number.tellsApart_sameSigned : TellsApart sameSigned := fun m n h =>
  tellsApart_same m n (Bool.and_eq_true_iff.1 h).1

/-- Different things are written as distinct values, if they can be told apart in writing. -/
theorem allDistinct_map {α : Type} {write : α → Json} {as : List α} (h : as.Nodup)
    (hwrite : ∀ eq, Number.TellsApart eq → ∀ a b, sameBy eq (write a) (write b) → a = b) :
    allDistinct (as.map write) := by
  have heq (eq) (htells : Number.TellsApart eq) : allDistinctBy eq (as.map write) := by
    induction as with
    | nil => rfl
    | cons a as ih =>
      obtain ⟨ha, has⟩ := List.nodup_cons.1 h
      have hany : (as.map write).any (sameBy eq (write a)) = false := by
        rw [List.any_map, List.any_eq_false]
        intro b hb hsame
        exact ha (hwrite eq htells a b hsame ▸ hb)
      rw [List.map_cons, allDistinctBy, hany, ih has]
      rfl
  unfold allDistinct
  split
  · exact heq _ Number.tellsApart_same
  · exact heq _ Number.tellsApart_sameSigned

end Json

namespace Schema

open Json

/-- A normal value breaks no rule of a schema that refers to no other. -/
def Allows (schema : Schema) (v : Json) : Prop := schema.violations .none v = []

theorem messages_eq_nil_iff {schema : Schema} {v : Json} :
    schema.messages v = [] ↔ schema.Allows v.normal :=
  List.map_eq_nil_iff

@[simp] theorem allows_all_iff {schemas : List Schema} {v : Json} :
    (all schemas).Allows v ↔ ∀ s ∈ schemas, s.Allows v := by
  rw [Allows, violations_all, List.flatMap_eq_nil_iff]
  rfl

@[simp] theorem allows_kinds_iff {ks : List Kind} {v : Json} :
    (kinds ks).Allows v ↔ ks.any v.isOf := by
  unfold Allows
  rw [violations]
  split <;> simp_all

@[simp] theorem allows_constant_iff {expected v : Json} :
    (constant expected).Allows v ↔ v.same expected := by
  unfold Allows
  rw [violations]
  split <;> simp_all

@[simp] theorem allows_options_iff {vs : List Json} {v : Json} :
    (options vs).Allows v ↔ vs.any v.same := by
  unfold Allows
  rw [violations]
  split <;> simp_all

@[simp] theorem allows_minimum_iff {m n : Int} :
    (minimum (.whole m)).Allows (.number (.whole n)) ↔ m ≤ n := by
  simp [Allows, violations, numberRule, Number.less, Number.value]

@[simp] theorem allows_maximum_iff {m n : Int} :
    (maximum (.whole m)).Allows (.number (.whole n)) ↔ n ≤ m := by
  simp [Allows, violations, numberRule, Number.less, Number.value]

@[simp] theorem allows_minLength_iff {limit : Nat} {s : String} :
    (minLength limit).Allows (.string s) ↔ limit ≤ s.length := by
  simp [Allows, violations, textRule]

@[simp] theorem allows_maxLength_iff {limit : Nat} {s : String} :
    (maxLength limit).Allows (.string s) ↔ s.length ≤ limit := by
  simp [Allows, violations, textRule]

@[simp] theorem allows_minItems_iff {limit : Nat} {vs : List Json} :
    (minItems limit).Allows (.array vs) ↔ limit ≤ vs.length := by
  simp [Allows, violations, arrayRule]

@[simp] theorem allows_distinctItems_iff {vs : List Json} :
    distinctItems.Allows (.array vs) ↔ allDistinct vs := by
  simp [Allows, violations, arrayRule]

@[simp] theorem allows_items_iff {schema : Schema} {vs : List Json} :
    (items schema).Allows (.array vs) ↔ ∀ v ∈ vs, schema.Allows v := by
  simp [Allows, violations, elementsOf]

@[simp] theorem allows_contains_iff {schema : Schema} {vs : List Json} :
    (contains schema).Allows (.array vs) ↔ ∃ v ∈ vs, schema.Allows v := by
  simp [Allows, violations, arrayRule]

/-- A rule for the members that have no name. -/
@[simp] theorem allows_otherMembers_iff {schema : Schema} {ms : List (String × Json)} :
    (otherMembers [] [] schema).Allows (.object ms) ↔ ∀ m ∈ ms, schema.Allows m.2 := by
  simp [Allows, violations, othersOf, membersOf]

theorem allows_members_iff {schemas : List (String × Schema)} {v : Json} :
    (members schemas).Allows v ↔ ∀ s ∈ schemas, ∀ w, v.member? s.1 = some w → s.2.Allows w := by
  rw [Allows, violations_members, List.flatMap_eq_nil_iff]
  refine forall₂_congr fun s _ => ?_
  cases v.member? s.1 <;> simp [Allows]

theorem allows_required_iff {names : List String} {ms : List (String × Json)} :
    (required names).Allows (.object ms) ↔ ∀ name ∈ names, (ms.lookup name).isSome := by
  unfold Allows
  rw [violations, missingNames, List.map_eq_nil_iff, List.filter_eq_nil_iff]
  simp only [Option.isNone_iff_eq_none, Option.isSome_iff_ne_none, ne_eq]

/-- The members of a record, whatever their order. -/
theorem allows_record_iff {names : List String} {schemas : List (String × Schema)}
    {ms : List (String × Json)} :
    (record names schemas).Allows (object ms).normal ↔
      (∀ name ∈ names, (ms.reverse.lookup name).isSome) ∧
      ∀ s ∈ schemas, ∀ w, ms.reverse.lookup s.1 = some w → s.2.Allows w.normal := by
  have hrequired : (required names).Allows (object ms).normal ↔
      ∀ name ∈ names, ((object ms).normal.member? name).isSome := allows_required_iff
  have hkind : (kinds [.object]).Allows (object ms).normal := allows_kinds_iff.2 rfl
  simp only [record, allows_all_iff, List.forall_mem_cons, allows_members_iff, hrequired, hkind,
    member?_normal, Option.isSome_map, Option.map_eq_some_iff]
  constructor
  · rintro ⟨hmembers, hnames, -⟩
    exact ⟨hnames, fun s hs w hw => hmembers s hs _ ⟨w, hw, rfl⟩⟩
  · rintro ⟨hnames, hmembers⟩
    refine ⟨fun s hs _ hw => ?_, hnames, trivial, nofun⟩
    obtain ⟨w, hw, rfl⟩ := hw
    exact hmembers s hs w hw

end Schema

end Wordbook
