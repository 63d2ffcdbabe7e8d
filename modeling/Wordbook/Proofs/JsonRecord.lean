import Wordbook.Json.Record
import Wordbook.Proofs.Check
import Wordbook.Proofs.JsonOrder

/-!
# Records in JSON that are read back

What a record is written as is read as the same record, in whatever order the
members of objects stand: field by field, and through lists, sets and maps.

* `Json.ReadAs`: a value is read in any order of its members;
* `Json.readAs_list`, `Json.readAs_set`, `Json.readAs_map`: collections;
* `Json.Rearranged.exists_record`, `Json.Record.Gives`: the fields of a record;
* `Json.Faithful`: what is written is read back, from values and from texts;
* `Json.Ensures`: what everything that is read has in common.
-/

namespace Wordbook

section

variable {α β : Type}

theorem mapM_eq_some_iff {f : α → Option β} {as : List α} {bs : List β} :
    as.mapM f = some bs ↔ List.Forall₂ (fun a b => f a = some b) as bs := by
  induction as generalizing bs with
  | nil => cases bs <;> simp
  | cons a as ih =>
    cases bs with
    | nil => simp [List.mapM_cons, Option.bind_eq_some_iff]
    | cons b bs => simp [List.mapM_cons, Option.bind_eq_some_iff, ← ih]

theorem exists_forall₂ {R : α → β → Prop} {as : List α} (h : ∀ a ∈ as, ∃ b, R a b) :
    ∃ bs, List.Forall₂ R as bs := by
  induction as with
  | nil => exact ⟨[], .nil⟩
  | cons a as ih =>
    obtain ⟨⟨b, hb⟩, has⟩ := List.forall_mem_cons.1 h
    obtain ⟨bs, hbs⟩ := ih has
    exact ⟨b :: bs, .cons hb hbs⟩

end

namespace Json

variable {α : Type} {read : Json → Option α} {write : α → Json}

/-- A value is read like this, in whatever order its members stand. -/
def ReadAs (v : Json) (read : Json → Option α) (a : α) : Prop :=
  ∀ w, v.Rearranged w → read w = some a

@[simp] theorem keysOnce_null : null.KeysOnce := by simp [KeysOnce]

@[simp] theorem keysOnce_bool (b : Bool) : (bool b).KeysOnce := by simp [KeysOnce]

@[simp] theorem keysOnce_string (s : String) : (string s).KeysOnce := by simp [KeysOnce]

@[simp] theorem keysOnce_ofInt64 (k : Int64) : (ofInt64 k).KeysOnce := by
  simp [ofInt64, whole, KeysOnce]

@[simp] theorem keysOnce_ofCount (k : Nat) : (ofCount k).KeysOnce := by
  simp [ofCount, whole, KeysOnce]

@[simp] theorem keysOnce_ofOption {o : Option α} (h : ∀ a, (write a).KeysOnce) :
    (ofOption write o).KeysOnce := by
  cases o with
  | none => exact keysOnce_null
  | some a => exact h a

@[simp] theorem keysOnce_ofList {as : List α} (h : ∀ a, (write a).KeysOnce) :
    (ofList write as).KeysOnce := by
  simp [ofList, h]

@[simp] theorem keysOnce_ofSet [LT α] {s : SortedSet α} (h : ∀ a, (write a).KeysOnce) :
    (ofSet write s).KeysOnce :=
  keysOnce_ofList h

/-- The keys of a map are distinct. -/
@[simp] theorem keysOnce_ofMap {m : SortedMap String α} (h : ∀ a, (write a).KeysOnce) :
    (ofMap write m).KeysOnce := by
  rw [ofMap, keysOnce_object_iff]
  refine ⟨?_, List.forall_mem_map.2 fun e _ => h e.2⟩
  simpa [Function.comp_def] using m.nodup_keys

theorem readAs_scalar {v : Json} {a : α} (harray : ∀ vs, v ≠ array vs)
    (hobject : ∀ ms, v ≠ object ms) (h : read v = some a) : v.ReadAs read a := by
  intro w hw
  rw [hw.eq_of_scalar harray hobject, h]

theorem readAs_text (s : String) : (string s).ReadAs text? s := readAs_scalar nofun nofun rfl

theorem readAs_bool (b : Bool) : (bool b).ReadAs bool? b := readAs_scalar nofun nofun rfl

theorem readAs_char (c : Char) : (string (String.singleton c)).ReadAs char? c := by
  refine readAs_scalar nofun nofun ?_
  rw [char?, String.toList_singleton]

theorem readAs_choice {choices : List (String × α)} {name : String} {a : α}
    (h : choices.lookup name = some a) : (string name).ReadAs (choice? choices) a :=
  readAs_scalar nofun nofun h

theorem wholeWithin?_whole {low high k : Int} (hlow : low ≤ k) (hhigh : k ≤ high) :
    (whole k).wholeWithin? low high = some k := by
  simp [wholeWithin?, whole, hlow, hhigh]

theorem readAs_int64 (k : Int64) : (ofInt64 k).ReadAs int64? k := by
  refine readAs_scalar nofun nofun ?_
  rw [int64?, ofInt64, wholeWithin?_whole k.minValue_le_toInt k.toInt_le, Option.map_some,
    Int64.ofInt_toInt]

/-- A number up to a greatest one. -/
theorem readAs_upTo {greatest k : Nat} (hk : k ≤ greatest) :
    (ofCount k).ReadAs (fun v => (v.wholeWithin? 0 greatest).map Int.toNat) k := by
  refine readAs_scalar nofun nofun ?_
  rw [ofCount, wholeWithin?_whole (Int.natCast_nonneg k) (Int.ofNat_le.2 hk)]
  rfl

theorem readAs_count {k : Nat} (hk : k ≤ Reader.maxWord) : (ofCount k).ReadAs count? k :=
  readAs_upTo hk

theorem readAs_list {as : List α} (h : ∀ a ∈ as, (write a).ReadAs read a) :
    (ofList write as).ReadAs (list? read) as := by
  intro w hw
  obtain ⟨ws, rfl, hws⟩ := hw.exists_array
  have hread := (List.forall₂_and_left ..).2 ⟨h, List.forall₂_map_left_iff.1 hws⟩
  exact mapM_eq_some_iff.2 (hread.flip.imp fun w a ⟨ha, haw⟩ => ha w haw)

theorem readAs_set [LT α] [DecidableLT α]
    [Trans (fun a b : α => a < b) (fun a b : α => a < b) (fun a b : α => a < b)]
    [Std.Trichotomous fun a b : α => a < b] [Std.Asymm fun a b : α => a < b] {s : SortedSet α}
    (h : ∀ a ∈ s.toList, (write a).ReadAs read a) : (ofSet write s).ReadAs (set? read) s := by
  intro w hw
  rw [set?, readAs_list h w hw, Option.map_some, SortedSet.ofList_eq_of_perm (List.Perm.refl _)]

theorem readAs_map {m : SortedMap String α} (h : ∀ e ∈ m.entries, (write e.2).ReadAs read e.2) :
    (ofMap write m).ReadAs (map? read) m := by
  intro w hw
  obtain ⟨ns, rfl, hns⟩ := hw.exists_object
  have hentries : ∀ n ∈ ns, ∃ e, pair? read n = some e ∧ e ∈ m.entries ∧ e.1 = n.1 := by
    intro n hn
    obtain ⟨v, hv, hvn⟩ := hw.exists_of_mem hn
    obtain ⟨e, he, heq⟩ := List.mem_map.1 hv
    obtain ⟨hkey, rfl⟩ := Prod.mk.inj heq
    exact ⟨e, by rw [pair?, h e he _ hvn, Option.map_some, ← hkey], he, hkey⟩
  obtain ⟨es, hes⟩ := exists_forall₂ hentries
  have hkeys : es.map Prod.fst = ns.map Prod.fst :=
    map_eq_map_of_forall₂ (hes.flip.imp fun _ _ h => h.2.2)
  have hread : ns.mapM (pair? read) = some es :=
    mapM_eq_some_iff.2 (hes.imp fun _ _ h => h.1)
  have hnodup : (es.map Prod.fst).Nodup := hkeys ▸ (keysOnce_object_iff.1 hw.keysOnce_right).1
  rw [map?, hread, Option.map_some]
  refine congrArg some (SortedMap.eq_of_mem_iff fun e => (SortedMap.mem_ofList_iff hnodup).trans ?_)
  constructor
  · intro he
    obtain ⟨n, -, -, hentry, -⟩ := exists_of_mem_forall₂ hes.flip he
    exact hentry
  · intro he
    obtain ⟨v, hv, -⟩ := hns _ (List.mem_map_of_mem he)
    obtain ⟨e', he', -, hentry, hkey⟩ := exists_of_mem_forall₂ hes hv
    obtain rfl := List.inj_on_of_nodup_map m.nodup_keys hentry he hkey
    exact he'

/-- What is not null is not read as if nothing were given. -/
theorem readAs_option {o : Option α} (hnull : read null = none)
    (h : ∀ a ∈ o, (write a).ReadAs read a) :
    (ofOption write o).ReadAs (Record.readOptional read) o := by
  intro w hw
  cases o with
  | none => rw [hw.eq_of_scalar nofun nofun]; rfl
  | some a =>
    have hread : read w = some a := h a rfl w hw
    have hne : w ≠ null := by
      rintro rfl
      nomatch hnull.symm.trans hread
    rw [Record.readOptional, hread]
    · rfl
    · exact hne

/-! ## Records -/

/-- A field of a record is given as this value, in some order of its members. -/
def Record.Gives (r : Record) (name : String) (v : Json) : Prop :=
  ∃ w, r.field? name = some w ∧ v.Rearranged w

theorem namesOnce_of_nodup {ms : List (String × Json)} (h : (ms.map Prod.fst).Nodup)
    (names : List String) : namesOnce names ms := by
  refine List.all_eq_true.2 fun name _ => decide_eq_true ?_
  have hcount := List.nodup_iff_count_le_one.1 h name
  rwa [List.count, List.countP_map] at hcount

theorem Record.gives_of_mem {ns : List (String × Json)} {m : String × Json} {v : Json}
    (hns : (ns.map Prod.fst).Nodup) (hv : (m.1, v) ∈ ns) (hmv : m.2.Rearranged v) :
    Record.Gives ⟨false, ns⟩ m.1 m.2 :=
  ⟨v, (lookup_eq_some_iff_mem hns).2 hv, hmv⟩

theorem Rearranged.gives {ms ns : List (String × Json)}
    (h : (object ms).Rearranged (object ns)) : ∀ m ∈ ms, Record.Gives ⟨false, ns⟩ m.1 m.2 := by
  intro m hm
  obtain ⟨_, heq, hmembers⟩ := h.exists_object
  obtain rfl := object.inj heq
  obtain ⟨v, hv, hmv⟩ := hmembers m hm
  exact Record.gives_of_mem (keysOnce_object_iff.1 h.keysOnce_right).1 hv hmv

/-- An object is read as a record with its members for fields. -/
theorem Rearranged.exists_record {ms : List (String × Json)} {w : Json}
    (h : (object ms).Rearranged w) (names : List String) :
    ∃ r, w.record? names = some r ∧ ∀ m ∈ ms, r.Gives m.1 m.2 := by
  obtain ⟨ns, rfl, -⟩ := h.exists_object
  have hnodup := (keysOnce_object_iff.1 h.keysOnce_right).1
  exact ⟨_, if_pos (namesOnce_of_nodup hnodup names), h.gives⟩

namespace Record.Gives

variable {r : Record} {name : String} {v : Json} {a : α}

theorem required_eq (h : r.Gives name v) (hv : v.ReadAs read a) :
    r.required name read = some a := by
  obtain ⟨w, hw, hvw⟩ := h
  rw [required, hw, Option.bind_some, hv w hvw]

theorem defaulted_eq (h : r.Gives name v) (hv : v.ReadAs read a) {default : α} :
    r.defaulted name default read = some a := by
  obtain ⟨w, hw, hvw⟩ := h
  rw [defaulted, hw]
  exact hv w hvw

theorem optional_eq (h : r.Gives name v) {o : Option α} (hv : v.ReadAs (readOptional read) o) :
    r.optional name read = some o := by
  obtain ⟨w, hw, hvw⟩ := h
  rw [optional, hw]
  exact hv w hvw

end Record.Gives

/-- What is written like this is read back, as far as it fits. -/
structure Faithful (write : α → Json) (read : Json → Option α) (Fits : α → Prop) : Prop where
  keysOnce {a : α} : Fits a → (write a).KeysOnce
  /-- It is read from its value, -/
  ofNormal {a : α} : Fits a → read (write a).normal = some a
  /-- in any order of the members, -/
  readAs {a : α} : Fits a → (write a).ReadAs read a
  /-- and from every text of it. -/
  ofText {a : α} {t : List Char} : Fits a → (write a).WrittenAs t → (read? t).bind read = some a
  injective {a b : α} : Fits a → Fits b → (write a).normal = (write b).normal → a = b

theorem Faithful.of_plain {Fits : α → Prop} {n : Nat} (hkeys : ∀ a, (write a).KeysOnce)
    (hread : ∀ a, Fits a → (write a).ReadAs read a) (hplain : ∀ a, Fits a → Plain n (write a)) :
    Faithful write read Fits := by
  have hnormal {a : α} (ha : Fits a) : read (write a).normal = some a :=
    hread a ha _ (hkeys a).rearranged_normal
  refine ⟨fun _ => hkeys _, hnormal, hread _, fun ha ht => ?_, fun ha hb heq => ?_⟩
  · obtain ⟨w, hw, hrearranged⟩ := (hplain _ ha).exists_read? ht
    rw [hw, Option.bind_some, hread _ ha w hrearranged]
  · -- Both are what is read from the one value.
    exact Option.some.inj ((hnormal ha).symm.trans (heq ▸ hnormal hb))

/-- Everything that is read like this has a property. -/
def Ensures (read : Json → Option α) (P : α → Prop) : Prop := ∀ v a, read v = some a → P a

section

variable {P : α → Prop}

theorem Ensures.of_required {r : Record} {name : String} {a : α} (h : Ensures read P)
    (ha : r.required name read = some a) : P a := by
  obtain ⟨v, -, hv⟩ := Option.bind_eq_some_iff.1 ha
  exact h v a hv

theorem Ensures.of_defaulted {r : Record} {name : String} {default a : α} (h : Ensures read P)
    (hdefault : P default) (ha : r.defaulted name default read = some a) : P a := by
  unfold Record.defaulted at ha
  split at ha
  · exact h _ a ha
  · exact Option.some.inj ha ▸ hdefault

theorem ensures_upTo (greatest : Nat) :
    Ensures (fun v => (v.wholeWithin? 0 greatest).map Int.toNat) (· ≤ greatest) :=
  fun _ _ => upTo_le

theorem ensures_count : Ensures count? (· ≤ Reader.maxWord) := ensures_upTo _

theorem ensures_list (h : Ensures read P) : Ensures (list? read) fun as => ∀ a ∈ as, P a := by
  intro v as has a ha
  unfold list? at has
  split at has
  · obtain ⟨w, -, hw⟩ := exists_of_mem_forall₂ (mapM_eq_some_iff.1 has).flip ha
    exact h w a hw
  · nomatch has

theorem ensures_set [LT α] [DecidableLT α]
    [Trans (fun a b : α => a < b) (fun a b : α => a < b) (fun a b : α => a < b)]
    [Std.Trichotomous fun a b : α => a < b] (h : Ensures read P) :
    Ensures (set? read) fun s => ∀ a ∈ s, P a := by
  intro v s hs a ha
  obtain ⟨as, has, rfl⟩ := Option.map_eq_some_iff.1 hs
  exact ensures_list h v as has a (SortedSet.mem_ofList.1 ha)

end

end Json

end Wordbook
