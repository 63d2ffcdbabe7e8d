import Mathlib.Data.List.Sort
import Wordbook.Proofs.Cell
import Wordbook.Proofs.JsonText
import Wordbook.Proofs.Schema

/-!
# Values in another order

The members of an object may be written in any order. Two values are the same
but for that if no object in them has a key twice and their normal forms agree.

* `Json.Rearranged`: values that differ in the order of members only;
* `Json.Rearranged.exists_array`, `Json.Rearranged.exists_object`: what they
  have in common, level by level;
* `Json.Plain.rearrange`: what can be written without loss can be so in any
  order;
* `Json.WrittenAs`, `Json.Plain.exists_read?`: the texts of a value.
-/

namespace Wordbook

section

variable {α : Type} {l : List (String × α)} {k : String} {a : α}

theorem lookup_eq_some_iff_mem (h : (l.map Prod.fst).Nodup) :
    l.lookup k = some a ↔ (k, a) ∈ l := by
  refine ⟨mem_of_lookup, fun hmem => ?_⟩
  induction l with
  | nil => nomatch hmem
  | cons e l ih =>
    obtain ⟨hkey, hl⟩ := List.nodup_cons.1 h
    rw [SortedMap.lookup_cons_eq_ite]
    rcases List.mem_cons.1 hmem with rfl | hmem
    · exact if_pos rfl
    · rw [if_neg, ih hl hmem]
      intro hk
      exact hkey (List.mem_map.2 ⟨_, hmem, hk⟩)

theorem lookup_reverse_of_nodup (h : (l.map Prod.fst).Nodup) (k : String) :
    l.reverse.lookup k = l.lookup k := by
  have hreverse : (l.reverse.map Prod.fst).Nodup := by
    rw [List.map_reverse]
    exact List.nodup_reverse.2 h
  refine Option.ext fun a => ?_
  rw [lookup_eq_some_iff_mem hreverse, lookup_eq_some_iff_mem h, List.mem_reverse]

theorem SortedMap.mem_ofList_iff (h : (l.map Prod.fst).Nodup) {e : String × α} :
    e ∈ (SortedMap.ofList l).entries ↔ e ∈ l := by
  refine ⟨mem_of_mem_ofList, fun hmem => mem_of_lookup (a := e.1) ?_⟩
  show (SortedMap.ofList l).get? e.1 = some e.2
  rw [get?_ofList, lookup_reverse_of_nodup h, lookup_eq_some_iff_mem h]
  exact hmem

theorem SortedMap.nodup_keys (m : SortedMap String α) : (m.entries.map Prod.fst).Nodup := by
  refine m.keys_ascending.imp ?_
  rintro k _ hlt rfl
  exact String.lt_irrefl k hlt

theorem SortedMap.eq_of_mem_iff {m n : SortedMap String α}
    (h : ∀ e, e ∈ m.entries ↔ e ∈ n.entries) : m = n := by
  have : Std.Asymm fun a b : String × α => a.1 < b.1 := ⟨fun _ _ => String.lt_asymm⟩
  obtain ⟨entries, hascending⟩ := m
  obtain ⟨entries', hascending'⟩ := n
  obtain rfl := hascending.eq_of_mem_iff hascending' h
  rfl

end

namespace Json

mutual

/-- No object in a value has a key twice. -/
def KeysOnce : Json → Prop
  | array vs => AllKeysOnce vs
  | object ms => (ms.map Prod.fst).Nodup ∧ MembersKeysOnce ms
  | _ => True

def AllKeysOnce : List Json → Prop
  | [] => True
  | v :: vs => v.KeysOnce ∧ AllKeysOnce vs

def MembersKeysOnce : List (String × Json) → Prop
  | [] => True
  | (_, v) :: ms => v.KeysOnce ∧ MembersKeysOnce ms

end

@[simp] theorem keysOnce_array_iff {vs : List Json} :
    (array vs).KeysOnce ↔ ∀ v ∈ vs, v.KeysOnce := by
  rw [KeysOnce]
  induction vs with
  | nil => simp [AllKeysOnce]
  | cons v vs ih => rw [AllKeysOnce, ih, List.forall_mem_cons]

@[simp] theorem keysOnce_object_iff {ms : List (String × Json)} :
    (object ms).KeysOnce ↔ (ms.map Prod.fst).Nodup ∧ ∀ m ∈ ms, m.2.KeysOnce := by
  have hmembers : MembersKeysOnce ms ↔ ∀ m ∈ ms, m.2.KeysOnce := by
    induction ms with
    | nil => simp [MembersKeysOnce]
    | cons m ms ih => rw [MembersKeysOnce, ih, List.forall_mem_cons]
  rw [KeysOnce, hmembers]

/-- In a normal value every key stands once. -/
theorem keysOnce_normal (v : Json) : v.normal.KeysOnce := by
  cases v with
  | null | bool | number | string | unreadable => trivial
  | array vs =>
    rw [normal_array, keysOnce_array_iff]
    exact List.forall_mem_map.2 fun v hv => v.keysOnce_normal
  | object ms =>
    rw [normal, keysOnce_object_iff]
    refine ⟨SortedMap.nodup_keys _, fun e he => ?_⟩
    have hmem := SortedMap.mem_of_mem_ofList he
    rw [normalMembers_eq_map] at hmem
    obtain ⟨m, hm, rfl⟩ := List.mem_map.1 hmem
    exact m.2.keysOnce_normal
termination_by v
decreasing_by
  · have hv := List.sizeOf_lt_of_mem hv
    rw [array.sizeOf_spec]
    omega
  · have hm := List.sizeOf_lt_of_mem hm
    have hvalue : sizeOf m.2 < sizeOf m := by
      rw [Prod.mk.sizeOf_spec]
      omega
    rw [object.sizeOf_spec]
    omega

/-- The same value, but for the order of the members of its objects. -/
structure Rearranged (v w : Json) : Prop where
  keysOnce_left : v.KeysOnce
  keysOnce_right : w.KeysOnce
  normal_eq : w.normal = v.normal

theorem KeysOnce.rearranged {v : Json} (h : v.KeysOnce) : v.Rearranged v := ⟨h, h, rfl⟩

theorem KeysOnce.rearranged_normal {v : Json} (h : v.KeysOnce) : v.Rearranged v.normal :=
  ⟨h, v.keysOnce_normal, v.normal_normal⟩

namespace Rearranged

variable {v w : Json}

theorem symm (h : v.Rearranged w) : w.Rearranged v :=
  ⟨h.keysOnce_right, h.keysOnce_left, h.normal_eq.symm⟩

/-- A value without members has no other order. -/
theorem eq_of_scalar (h : v.Rearranged w) (harray : ∀ vs, v ≠ array vs)
    (hobject : ∀ ms, v ≠ object ms) : w = v := by
  have hnormal := h.normal_eq
  cases v with
  | array vs => exact absurd rfl (harray vs)
  | object ms => exact absurd rfl (hobject ms)
  | null | bool | number | string | unreadable =>
    cases w <;> simp_all [normal]

theorem forall₂_of_map_normal {vs ws : List Json} (hvs : ∀ v ∈ vs, v.KeysOnce)
    (hws : ∀ w ∈ ws, w.KeysOnce) (h : ws.map normal = vs.map normal) :
    List.Forall₂ Rearranged vs ws := by
  induction vs generalizing ws with
  | nil =>
    obtain rfl := List.map_eq_nil_iff.1 h
    exact .nil
  | cons v vs ih =>
    cases ws with
    | nil => nomatch h
    | cons w ws =>
      obtain ⟨hv, hvs⟩ := List.forall_mem_cons.1 hvs
      obtain ⟨hw, hws⟩ := List.forall_mem_cons.1 hws
      obtain ⟨hnormal, h⟩ := List.cons_eq_cons.1 h
      exact .cons ⟨hv, hw, hnormal⟩ (ih hvs hws h)

/-- The elements of an array keep their places. -/
theorem exists_array {vs : List Json} (h : (array vs).Rearranged w) :
    ∃ ws, w = array ws ∧ List.Forall₂ Rearranged vs ws := by
  have hnormal := h.normal_eq
  cases w with
  | array ws =>
    rw [normal_array, normal_array] at hnormal
    exact ⟨ws, rfl, forall₂_of_map_normal (keysOnce_array_iff.1 h.keysOnce_left)
      (keysOnce_array_iff.1 h.keysOnce_right) (array.inj hnormal)⟩
  | null | bool | number | string | unreadable | object => simp [normal] at hnormal

/-- The members of an object are found under their keys. -/
theorem exists_object {ms : List (String × Json)} (h : (object ms).Rearranged w) :
    ∃ ns, w = object ns ∧ ∀ m ∈ ms, ∃ v, (m.1, v) ∈ ns ∧ m.2.Rearranged v := by
  have hnormal := h.normal_eq
  cases w with
  | object ns =>
    obtain ⟨hms, hleft⟩ := keysOnce_object_iff.1 h.keysOnce_left
    obtain ⟨hns, hright⟩ := keysOnce_object_iff.1 h.keysOnce_right
    refine ⟨ns, rfl, fun m hm => ?_⟩
    have hmember : (ns.lookup m.1).map normal = (ms.lookup m.1).map normal := by
      rw [← lookup_reverse_of_nodup hns, ← lookup_reverse_of_nodup hms, ← member?_normal,
        ← member?_normal, hnormal]
    rw [(lookup_eq_some_iff_mem hms).2 hm, Option.map_some] at hmember
    obtain ⟨v, hv, heq⟩ := Option.map_eq_some_iff.1 hmember
    have hmem := (lookup_eq_some_iff_mem hns).1 hv
    exact ⟨v, hmem, hleft m hm, hright _ hmem, heq⟩
  | null | bool | number | string | unreadable | array => simp [normal] at hnormal

/-- An object has no members but those of the other one. -/
theorem exists_of_mem {ms ns : List (String × Json)} (h : (object ms).Rearranged (object ns))
    {n : String × Json} (hn : n ∈ ns) : ∃ v, (n.1, v) ∈ ms ∧ v.Rearranged n.2 := by
  obtain ⟨_, heq, hmembers⟩ := h.symm.exists_object
  obtain rfl := object.inj heq
  obtain ⟨v, hv, hrearranged⟩ := hmembers n hn
  exact ⟨v, hv, hrearranged.symm⟩

end Rearranged

/-- What can be written without loss can be so in any order. -/
theorem Plain.rearrange {n : Nat} {v w : Json} (h : Plain n v) (hw : v.Rearranged w) :
    Plain n w := by
  induction h generalizing w with
  | null => exact hw.eq_of_scalar nofun nofun ▸ .null
  | bool b => exact hw.eq_of_scalar nofun nofun ▸ .bool b
  | whole hk => exact hw.eq_of_scalar nofun nofun ▸ .whole hk
  | string s => exact hw.eq_of_scalar nofun nofun ▸ .string s
  | array _ ih =>
    obtain ⟨ws, rfl, hws⟩ := hw.exists_array
    refine .array fun w hw => ?_
    obtain ⟨v, hv, hvw⟩ := exists_of_mem_forall₂ hws.flip hw
    exact ih v hv hvw
  | object _ ih =>
    obtain ⟨ns, rfl, -⟩ := hw.exists_object
    refine .object fun n hn => ?_
    obtain ⟨v, hv, hvn⟩ := hw.exists_of_mem hn
    exact ih _ hv hvn

/-- A text of a value, with its members in some order and some gaps. -/
def WrittenAs (v : Json) (t : List Char) : Prop :=
  ∃ w s, v.Rearranged w ∧ t = Writer.spaced s 0 w

theorem KeysOnce.writtenAs_compact {v : Json} (h : v.KeysOnce) : v.WrittenAs v.compact.toList := by
  refine ⟨v, .dense, h.rearranged, ?_⟩
  rw [compact, String.toList_ofList, Writer.compact_eq_spaced 0]

theorem KeysOnce.writtenAs_pretty {v : Json} (h : v.KeysOnce) : v.WrittenAs v.pretty.toList := by
  refine ⟨v, .lines, h.rearranged, ?_⟩
  rw [pretty, String.toList_ofList, Writer.pretty_eq_spaced]

/-- A text holds the value, in the order in which it stands there. -/
theorem Plain.exists_read? {n : Nat} {v : Json} {t : List Char} (h : Plain n v)
    (ht : v.WrittenAs t) : ∃ w, read? t = some w ∧ v.Rearranged w := by
  obtain ⟨w, s, hw, rfl⟩ := ht
  exact ⟨w, (h.rearrange hw).read?_spaced s, hw⟩

end Json

end Wordbook
