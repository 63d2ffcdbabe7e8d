import Mathlib.Logic.Basic
import Mathlib.Tactic.MkIffOfInductiveProp
import Wordbook.Proofs.Schema

/-!
# Valid bundles

What the schema of bundles asks of a bundle in the program, where most of its
rules hold by themselves.

* `Form.IsValid`, `Variant.IsValid`, `Bundle.IsValid`: what is left of the rules;
* `Bundle.invalid_eq_nil_iff`: it is all that there is to the schema.
-/

namespace Wordbook

open Json Schema

@[mk_iff]
structure Form.IsValid (f : Form) : Prop where
  variantId : ∃ id ∈ f.variantId, id ≤ -1
  length_pos : 1 ≤ f.text.length
  length_le : f.text.length ≤ 100

@[mk_iff]
structure Variant.IsValid (v : Variant) : Prop where
  id_le : v.id ≤ -1
  dialects : v.dialectIds.isSome
  forms_ne_nil : v.forms ≠ []
  forms : ∀ f ∈ v.forms, f.IsValid
  tags : ∀ e ∈ v.properties.entries, "" ∉ e.2

@[mk_iff]
structure Bundle.IsValid (b : Bundle) : Prop where
  language_ne_empty : b.language ≠ ""
  pos_ne_empty : b.pos ≠ ""
  line_pos : 1 ≤ b.line
  main : ∃ v ∈ b.variants, v.main
  variants : ∀ v ∈ b.variants, v.IsValid

namespace Json

@[simp] theorem isOf_array (vs : List Json) : (array vs).isOf .array = true := rfl

@[simp] theorem isOf_boolean (b : Bool) : (bool b).isOf .boolean = true := rfl

@[simp] theorem isOf_integer (n : Int) : (number (.whole n)).isOf .integer = true := rfl

@[simp] theorem isOf_object (ms : List (String × Json)) : (object ms).isOf .object = true := rfl

@[simp] theorem isOf_string (s : String) : (string s).isOf .string = true := rfl

@[simp] theorem normal_ofInt64 (n : Int64) : (ofInt64 n).normal = number (.whole n.toInt) := rfl

@[simp] theorem normal_ofCount (n : Nat) : (ofCount n).normal = number (.whole n) := rfl

theorem allDistinct_int64 (s : SortedSet Int64) :
    allDistinct (s.toList.map fun n => number (.whole n.toInt)) := by
  refine allDistinct_map (s.ascending.imp Int64.ne_of_lt) fun eq heq a b hsame => ?_
  exact Int64.toInt_inj.1 (heq _ _ hsame)

theorem allDistinct_string (s : SortedSet String) : allDistinct (s.toList.map string) := by
  refine allDistinct_map (s.ascending.imp String.ne_of_lt) fun eq _ a b hsame => ?_
  exact beq_iff_eq.1 hsame

end Json

namespace Schema

@[simp] theorem allows_integer_iff {v : Json} : integer.Allows v ↔ v.isOf .integer := by
  simp [integer]

@[simp] theorem allows_filled_iff {s : String} : filled.Allows (.string s) ↔ s ≠ "" := by
  have hlength : 1 ≤ s.length ↔ s ≠ "" := by
    rw [Nat.one_le_iff_ne_zero, Ne, String.length_eq_zero_iff]
  simp [filled, hlength]

/-- A temporary id. -/
@[simp] theorem allows_maxTemporaryId_iff {n : Int64} :
    (maximum maxTemporaryId).Allows (.number (.whole n.toInt)) ↔ n ≤ -1 := by
  rw [maxTemporaryId, allows_maximum_iff, Int64.le_iff_toInt_le]
  rfl

end Schema

theorem Form.allows_iff {f : Form} : Form.schema.Allows f.toJson.normal ↔ f.IsValid := by
  have hstate : (string f.state.name).same (string "typed") = true ∨
      (string f.state.name).same (string "generated") = true := by
    cases f.state with
    | typed => exact .inl rfl
    | generated => exact .inr rfl
  have hid : (maximum maxTemporaryId).Allows (ofOption ofInt64 f.variantId).normal ∧
      (ofOption ofInt64 f.variantId).normal.isOf .integer = true ↔
        ∃ id, f.variantId = some id ∧ id ≤ -1 := by
    cases f.variantId with
    | none => simp [ofOption, isOf]
    | some id => simp [ofOption]
  have hallows : Form.schema.Allows f.toJson.normal ↔
      (f.text.length ≤ 100 ∧ 1 ≤ f.text.length) ∧ ∃ id, f.variantId = some id ∧ id ≤ -1 := by
    rw [Form.schema, Form.toJson, allows_record_iff]
    simp [SortedMap.lookup_cons_eq_ite, hstate, hid]
  rw [hallows, isValid_iff]
  exact ⟨fun ⟨⟨hle, hpos⟩, hid⟩ => ⟨hid, hpos, hle⟩, fun ⟨hid, hpos, hle⟩ => ⟨⟨hle, hpos⟩, hid⟩⟩

theorem Properties.allows_iff {p : Properties} :
    Properties.schema.Allows p.toJson.normal ↔ ∀ e ∈ p.entries, "" ∉ e.2 := by
  have htags (tags : SortedSet String) :
      (items .filled).Allows (ofSet string tags).normal ∧
        (ofSet string tags).normal.isOf .array = true ∧
        distinctItems.Allows (ofSet string tags).normal ↔ "" ∉ tags := by
    have hfilled : (∀ tag ∈ tags.toList, tag ≠ "") ↔ "" ∉ tags :=
      ⟨fun h hmem => h "" hmem rfl, fun h tag htag hempty => h (hempty ▸ htag)⟩
    simp [ofSet, allDistinct_string, ← hfilled]
  rw [Properties.schema, Properties.toJson, normal_ofMap]
  simp only [allows_all_iff, List.forall_mem_cons, allows_otherMembers_iff, List.forall_mem_map]
  simp [htags]

theorem Variant.allows_iff {v : Variant} : Variant.schema.Allows v.toJson.normal ↔ v.IsValid := by
  have haction : (string v.action.name).same (string "insert") = true := rfl
  have hdialects : (items .integer).Allows (ofOption (ofSet ofInt64) v.dialectIds).normal ∧
      (ofOption (ofSet ofInt64) v.dialectIds).normal.isOf .array = true ∧
      distinctItems.Allows (ofOption (ofSet ofInt64) v.dialectIds).normal ↔
        v.dialectIds.isSome := by
    cases v.dialectIds with
    | none => simp [ofOption, isOf]
    | some ids => simp [ofOption, ofSet, allDistinct_int64]
  have hforms : 1 ≤ v.forms.length ↔ v.forms ≠ [] := by
    rw [Nat.one_le_iff_ne_zero, Ne, List.length_eq_zero_iff]
  have hallows : Variant.schema.Allows v.toJson.normal ↔ v.dialectIds.isSome ∧ v.id ≤ -1 ∧
      ((∀ f ∈ v.forms, f.IsValid) ∧ v.forms ≠ []) ∧ ∀ e ∈ v.properties.entries, "" ∉ e.2 := by
    rw [Variant.schema, Variant.toJson, allows_record_iff]
    simp [SortedMap.lookup_cons_eq_ite, haction, hdialects, hforms, Form.allows_iff,
      Properties.allows_iff]
  rw [hallows, isValid_iff]
  constructor
  · rintro ⟨hdialects, hid, ⟨hvalid, hne⟩, htags⟩
    exact ⟨hid, hdialects, hne, hvalid, htags⟩
  · rintro ⟨hid, hdialects, hne, hvalid, htags⟩
    exact ⟨hdialects, hid, ⟨hvalid, hne⟩, htags⟩

theorem Variant.allows_main_iff {v : Variant} :
    Variant.mainSchema.Allows v.toJson.normal ↔ v.main := by
  have hmain : (bool v.main).same (bool true) = true ↔ v.main := by
    cases v.main <;> decide
  rw [Variant.mainSchema, Variant.toJson, allows_record_iff]
  simp [SortedMap.lookup_cons_eq_ite, hmain]

theorem Bundle.allows_iff {b : Bundle} : Bundle.schema.Allows b.toJson.normal ↔ b.IsValid := by
  have haction : (string b.action.name).same (string "insert") = true := rfl
  have hcount (h : ∃ v ∈ b.variants, v.main) : 1 ≤ b.variants.length := by
    obtain ⟨v, hv, -⟩ := h
    exact List.length_pos_of_mem hv
  have hline : (1 : Int) ≤ b.line ↔ 1 ≤ b.line := by omega
  have hallows : Bundle.schema.Allows b.toJson.normal ↔ b.language ≠ "" ∧ 1 ≤ b.line ∧
      b.pos ≠ "" ∧ (∃ v ∈ b.variants, v.main) ∧ (∀ v ∈ b.variants, v.IsValid) ∧
      1 ≤ b.variants.length := by
    rw [Bundle.schema, Bundle.toJson, allows_record_iff]
    simp [SortedMap.lookup_cons_eq_ite, haction, hline, Variant.allows_iff,
      Variant.allows_main_iff]
  rw [hallows, isValid_iff]
  constructor
  · rintro ⟨hlanguage, hline, hpos, hmain, hvalid, -⟩
    exact ⟨hlanguage, hpos, hline, hmain, hvalid⟩
  · rintro ⟨hlanguage, hpos, hline, hmain, hvalid⟩
    exact ⟨hlanguage, hline, hpos, hmain, hvalid, hcount hmain⟩

theorem Bundle.messages_eq_nil_iff {b : Bundle} :
    Bundle.schema.messages b.toJson = [] ↔ b.IsValid :=
  Schema.messages_eq_nil_iff.trans allows_iff

/-- Validation finds nothing if it finds nothing in any of the bundles. -/
theorem Bundle.invalid_eq_nil_iff {bundles : List Bundle} :
    invalid bundles = [] ↔ ∀ b ∈ bundles, b.IsValid := by
  rw [invalid, invalidValues, List.filter_eq_nil_iff, List.forall_mem_map]
  constructor
  · intro h b hb
    obtain ⟨place, hplace⟩ := List.mem_iff_getElem?.1 (List.mem_map_of_mem (f := toJson) hb)
    simpa [messages_eq_nil_iff] using h _ (List.mk_mem_zipIdx_iff_getElem?.2 hplace)
  · rintro h ⟨v, place⟩ hv
    have hplace := List.mk_mem_zipIdx_iff_getElem?.1 hv
    obtain ⟨b, hb, rfl⟩ := List.mem_map.1 (List.mem_of_getElem? hplace)
    simp [messages_eq_nil_iff.2 (h b hb)]

end Wordbook
