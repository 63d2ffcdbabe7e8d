import Wordbook.Proofs.Rows

/-!
# The ids in bundles

Every variant has an id of its own, and its forms refer to it. The ids of the
bundles of a row are those that the row has drawn.

* `Bundle.IsLinked`: how the parts of a bundle hang together;
* `buildRow_linked`: a row that does not fail uses all its ids, in order;
* `BundleDraft.bundles_moved`: other ids to begin with, and the same bundles.
-/

namespace Wordbook

/-- All ids of a bundle, those that its forms refer to among them. -/
def Bundle.ids (b : Bundle) : List Int64 :=
  b.variants.flatMap fun v => v.id :: v.forms.filterMap (·.variantId)

/-- How the parts of a bundle hang together. -/
structure Bundle.IsLinked (b : Bundle) : Prop where
  variants_ne_nil : b.variants ≠ []
  main_iff : ∀ k v, b.variants[k]? = some v → (v.main ↔ k = 0)
  variantId_eq : ∀ v ∈ b.variants, ∀ f ∈ v.forms, f.variantId = some v.id
  dialects : ∀ v ∈ b.variants, v.dialectIds.isSome

/-- The forms of a bundle bring no ids of their own. -/
theorem Bundle.IsLinked.mem_ids {b : Bundle} (h : b.IsLinked) {id : Int64} (hid : id ∈ b.ids) :
    id ∈ b.variants.map (·.id) := by
  obtain ⟨v, hv, hid⟩ := List.mem_flatMap.1 hid
  refine List.mem_map.2 ⟨v, hv, ?_⟩
  rcases List.mem_cons.1 hid with rfl | hid
  · rfl
  · obtain ⟨f, hf, hid⟩ := List.mem_filterMap.1 hid
    exact Option.some.inj ((h.variantId_eq v hv f hf).symm.trans hid)

namespace Draft

theorem getElem?_lexeme (orthographyId first : Int64) (ds : List Draft) (k : Nat) :
    (lexeme orthographyId first ds)[k]? =
      ds[k]?.map fun d => d.variant k orthographyId (first - Int64.ofNat k) :=
  List.getElem?_mapIdx

theorem exists_of_mem_lexeme {orthographyId first : Int64} {ds : List Draft} {v : Variant}
    (h : v ∈ lexeme orthographyId first ds) :
    ∃ d ∈ ds, ∃ k id, v = d.variant k orthographyId id := by
  obtain ⟨k, hk⟩ := List.mem_iff_getElem?.1 h
  rw [getElem?_lexeme] at hk
  obtain ⟨d, hd, rfl⟩ := Option.map_eq_some_iff.1 hk
  exact ⟨d, List.mem_of_getElem? hd, k, _, rfl⟩

/-- The texts of the forms of some variants are those of the forms that they are made of. -/
theorem forall_form_lexeme {P : String → FormState → Prop} {orthographyId first : Int64}
    {ds : List Draft} :
    (∀ v ∈ lexeme orthographyId first ds, ∀ f ∈ v.forms, P f.text f.state) ↔
      ∀ d ∈ ds, ∀ f ∈ d.forms, P f.text f.state := by
  constructor
  · intro h d hd f hf
    obtain ⟨k, hk⟩ := List.mem_iff_getElem?.1 hd
    have hv : d.variant k orthographyId (first - Int64.ofNat k) ∈ lexeme orthographyId first ds :=
      List.mem_of_getElem? (i := k) (by rw [getElem?_lexeme, hk]; rfl)
    exact h _ hv { f with variantId := some _ } (List.mem_map_of_mem hf)
  · intro h v hv f hf
    obtain ⟨d, hd, k, id, rfl⟩ := exists_of_mem_lexeme hv
    obtain ⟨form, hform, rfl⟩ := List.mem_map.1 hf
    exact h d hd form hform

theorem forall_form_lexemes {P : String → FormState → Prop} {orthographyId first : Int64}
    {gs : List (List Draft)} :
    (∀ vs ∈ lexemes orthographyId first gs, ∀ v ∈ vs, ∀ f ∈ v.forms, P f.text f.state) ↔
      ∀ ds ∈ gs, ∀ d ∈ ds, ∀ f ∈ d.forms, P f.text f.state := by
  induction gs generalizing first with
  | nil => simp [lexemes]
  | cons ds gs ih =>
    rw [lexemes, List.forall_mem_cons, List.forall_mem_cons, forall_form_lexeme, ih]

theorem map_id_lexeme (orthographyId first : Int64) (ds : List Draft) :
    (lexeme orthographyId first ds).map (·.id) = countdown first ds.length := by
  refine List.ext_getElem? fun k => ?_
  rw [List.getElem?_map, getElem?_lexeme, countdown, List.getElem?_map]
  rcases Nat.lt_or_ge k ds.length with hk | hk
  · rw [List.getElem?_range hk, List.getElem?_eq_getElem hk]
    rfl
  · rw [List.getElem?_eq_none hk, List.getElem?_eq_none (by simpa using hk)]
    rfl

end Draft

namespace BundleDraft

theorem isLinked {b : BundleDraft} (hb : b.IsSound) (tag : String) (row : Row) (first : Int64) :
    (b.bundle tag row first).IsLinked where
  variants_ne_nil h := hb.drafts_ne_nil (List.length_eq_zero_iff.1
    ((Draft.length_lexeme ..).symm.trans (congrArg List.length h)))
  main_iff k v hv := by
    obtain ⟨d, -, rfl⟩ := Option.map_eq_some_iff.1 ((Draft.getElem?_lexeme ..).symm.trans hv)
    exact beq_iff_eq
  variantId_eq v hv f hf := by
    obtain ⟨d, -, k, id, rfl⟩ := Draft.exists_of_mem_lexeme hv
    obtain ⟨_, -, rfl⟩ := List.mem_map.1 hf
    rfl
  dialects v hv := by
    obtain ⟨d, hd, k, id, rfl⟩ := Draft.exists_of_mem_lexeme hv
    exact hb.dialects d hd

theorem map_id_bundles (tag : String) (row : Row) (first : Int64) (bs : List BundleDraft) :
    (bundles tag row first bs).flatMap (fun b => b.variants.map (·.id)) =
      countdown first (size bs) := by
  induction bs generalizing first with
  | nil => rfl
  | cons b bs ih =>
    rw [bundles, List.flatMap_cons, ih, size_cons, countdown_add]
    exact congrArg (· ++ _) (Draft.map_id_lexeme ..)

end BundleDraft

def Diagnostic.atLine (line : Nat) (d : Diagnostic) : Diagnostic := { d with line := line }

def Form.moved (d : Int64) (f : Form) : Form := { f with variantId := f.variantId.map (· + d) }

def Variant.moved (d : Int64) (v : Variant) : Variant :=
  { v with id := v.id + d, forms := v.forms.map (Form.moved d) }

/-- A bundle of another line, with some number added to its ids. -/
def Bundle.moved (d : Int64) (line : Nat) (b : Bundle) : Bundle :=
  { b with line := line, variants := b.variants.map (Variant.moved d) }

theorem Draft.variant_moved (k : Nat) (orthographyId id d : Int64) (draft : Draft) :
    draft.variant k orthographyId (id + d) = (draft.variant k orthographyId id).moved d := by
  simp only [Draft.variant, Variant.create, Variant.moved, List.map_map]
  rfl

theorem Draft.lexeme_moved (orthographyId first d : Int64) (ds : List Draft) :
    lexeme orthographyId (first + d) ds =
      (lexeme orthographyId first ds).map (Variant.moved d) := by
  refine List.ext_getElem? fun k => ?_
  rw [List.getElem?_map, getElem?_lexeme, getElem?_lexeme, Option.map_map]
  refine congrArg (Option.map · _) (funext fun draft => ?_)
  rw [moved_sub, variant_moved]
  rfl

theorem BundleDraft.bundles_moved (tag : String) (row : Row) (line : Nat) (first d : Int64)
    (bs : List BundleDraft) :
    bundles tag { row with line := line } (first + d) bs =
      (bundles tag row first bs).map (Bundle.moved d line) := by
  induction bs generalizing first with
  | nil => rfl
  | cons b bs ih =>
    rw [bundles, bundles, List.map_cons, moved_sub, ih]
    refine congrArg (· :: _) ?_
    rw [bundle, Draft.lexeme_moved]
    rfl

/-- What a row comes to, on another line and with some number added to its ids. -/
def RowResult.moved (d : Int64) (line : Nat) (r : RowResult) : RowResult where
  ids := ⟨r.ids.first + d, r.ids.drawn⟩
  diagnostics := r.diagnostics.map (·.atLine line)
  bundles := r.bundles.map fun bundles => bundles.map (Bundle.moved d line)

section

variable {ps : List Provider} {posColumn : Nat} {row : Row} {first : Int64} {r : RowResult}

/-- A row without failures uses the ids that it draws, all of them and in their order. -/
theorem buildRow_linked (hps : ∀ p ∈ ps, p.IsReady) (h : buildRow ps posColumn row first = .ok r)
    {bundles : List Bundle} (hbundles : r.bundles = some bundles) :
    bundles.flatMap (fun b => b.variants.map (·.id)) = r.ids.members ∧
      ∀ b ∈ bundles, b.IsLinked := by
  obtain ⟨⟨remarks, drawn, outcome⟩, hsuit, hs⟩ := exists_buildRow_eq hps posColumn row
  obtain rfl := Except.ok.inj ((hs row rfl first).symm.trans h)
  cases outcome with
  | error failure => nomatch hbundles
  | ok bs =>
    obtain rfl := Option.some.inj hbundles
    obtain ⟨rfl, hbs⟩ := hsuit bs rfl
    refine ⟨BundleDraft.map_id_bundles .., fun b hb => ?_⟩
    obtain ⟨draft, hdraft, first', rfl⟩ := BundleDraft.mem_bundles hb
    exact BundleDraft.isLinked (hbs.sound draft hdraft) _ _ _

theorem mem_members_of_buildRow (hps : ∀ p ∈ ps, p.IsReady)
    (h : buildRow ps posColumn row first = .ok r) {bundles : List Bundle}
    (hbundles : r.bundles = some bundles) {b : Bundle} (hb : b ∈ bundles) {id : Int64}
    (hid : id ∈ b.ids) : id ∈ r.ids.members := by
  obtain ⟨hmembers, hlinked⟩ := buildRow_linked hps h hbundles
  rw [← hmembers]
  exact List.mem_flatMap.2 ⟨b, hb, (hlinked b hb).mem_ids hid⟩

/-- A row comes to the same thing on every line and with every id to begin with. -/
theorem buildRow_moved (hps : ∀ p ∈ ps, p.IsReady) (h : buildRow ps posColumn row first = .ok r)
    (d : Int64) (line : Nat) :
    buildRow ps posColumn { row with line := line } (first + d) = .ok (r.moved d line) := by
  obtain ⟨⟨remarks, drawn, outcome⟩, -, hs⟩ := exists_buildRow_eq hps posColumn row
  obtain rfl := Except.ok.inj ((hs row rfl first).symm.trans h)
  rw [hs { row with line := line } rfl]
  refine congrArg Except.ok ?_
  simp only [RowSketch.result, RowResult.moved, List.map_append, List.map_map]
  cases outcome with
  | error failure => rfl
  | ok bs =>
    simp only [Except.toOption, Option.map_some, BundleDraft.bundles_moved]
    rfl

end

end Wordbook
