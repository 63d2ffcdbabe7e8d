import Mathlib.Data.List.Flatten
import Mathlib.Data.List.Pairwise
import Wordbook.Proofs.Bundle

/-!
# The numbering of variants

The variants of a run have ids that descend from the first one. Those of a row
have no gaps between them, and what a row has drawn before it fails stays unused.

* `Importer.Done.ids_sublist`: the ids of all bundles are among those drawn, in
  the same order;
* `Importer.Run.numbered`: how a run is numbered.
-/

namespace Wordbook

/-- The ids of the variants of some bundles. -/
def variantIds (bundles : List Bundle) : List Int64 :=
  bundles.flatMap fun b => b.variants.map (·.id)

namespace Provider

/-- A bundle is one that a provider makes of a row. -/
def Made (p : Provider) (row : Row) (b : Bundle) : Prop :=
  ∃ bound ledger lexemes after, p.creator? b.pos = some bound ∧
    p.Makes bound b.pos row ledger lexemes after ∧ ∃ vs ∈ lexemes, b = p.bundle b.pos row vs

variable {p : Provider} {tag : String} {row : Row}

theorem Chain.made {ps : List Provider} {ledger after : Ledger} {bundles : List Bundle}
    (h : Chain tag row ps ledger bundles after) {b : Bundle} (hb : b ∈ bundles) :
    ∃ p ∈ ps, p.Made row b := by
  induction h with
  | nil => nomatch hb
  | idle _ _ ih =>
    obtain ⟨q, hq, hmade⟩ := ih hb
    exact ⟨q, List.mem_cons_of_mem _ hq, hmade⟩
  | @busy p ps bound ledger lexemes between bundles after hbound hmakes _ ih =>
    rcases List.mem_append.1 hb with hb | hb
    · obtain ⟨vs, hvs, rfl⟩ := List.mem_map.1 hb
      exact ⟨p, List.mem_cons_self, bound, ledger, lexemes, between, hbound, hmakes, vs, hvs, rfl⟩
    · obtain ⟨q, hq, hmade⟩ := ih hb
      exact ⟨q, List.mem_cons_of_mem _ hq, hmade⟩

theorem orthographyId_of_mem_lexemes {orthographyId first : Int64} {gs : List (List Draft)}
    {vs : List Variant} (h : vs ∈ Draft.lexemes orthographyId first gs) :
    ∀ v ∈ vs, v.orthographyId = orthographyId := by
  induction gs generalizing first with
  | nil => nomatch h
  | cons ds gs ih =>
    rcases List.mem_cons.1 h with rfl | h
    · intro v hv
      obtain ⟨_, _, _, _, rfl⟩ := Draft.exists_of_mem_lexeme hv
      rfl
    · exact ih h

theorem Made.orthographyId_eq (hp : p.IsReady) {b : Bundle} (h : p.Made row b) :
    ∀ v ∈ b.variants, v.orthographyId = p.orthographyId := by
  obtain ⟨bound, ledger, lexemes, after, hbound, hmakes, vs, hvs, hb⟩ := h
  obtain ⟨s, -, hc⟩ := p.lexemes_sketches (creator?_isInitialised hp hbound) b.pos row
  have hl := (hc row rfl ledger).symm.trans (lexemes_eq_ok_iff.2 hmakes)
  obtain ⟨gs, -, rfl⟩ := map_eq_ok_iff.1 (congrArg Prod.fst (Except.ok.inj hl))
  rw [hb]
  exact orthographyId_of_mem_lexemes hvs

end Provider

namespace Importer

namespace Done

variable {s : Setup} {source : Source} {i : Importer} {row : Row} {r : RowResult}

theorem members_eq_trace (h : Done s source i) :
    (s.ids source).members = (s.trace source).flatMap (·.2.ids.members) := by
  show _ = (s.trace source).flatMap fun t => (Prod.snd t).ids.members
  rw [← List.flatMap_map Prod.snd fun r : RowResult => r.ids.members, h.map_snd_trace,
    (buildRows_spec h.isReady h.buildRows_eq).2]
  rfl

theorem variantIds_sublist (h : Done s source i) (hr : (row, r) ∈ s.trace source) :
    (variantIds (r.bundles.getD [])).Sublist r.ids.members := by
  cases hbundles : r.bundles with
  | none => exact List.nil_sublist _
  | some bundles =>
    rw [← (buildRow_linked h.isReady (h.buildRow_eq hr) hbundles).1]
    exact List.Sublist.refl _

theorem ids_sublist (h : Done s source i) :
    (variantIds i.bundles).Sublist (s.ids source).members := by
  rw [h.bundles_eq_trace, h.members_eq_trace, variantIds, List.flatMap_assoc]
  exact List.Sublist.flatMap_right _ fun t ht => h.variantIds_sublist ht

/-- The ids of a row count down from one of them. -/
theorem variantIds_of_row (h : Done s source i) (hfits : (s.ids source).Fits)
    (hrow : row ∈ s.rows source) :
    ∃ f : Int, ∀ (k : Nat) id,
      (variantIds (i.bundles.filter (·.line == row.line)))[k]? = some id → id.toInt = f - k := by
  obtain ⟨r, hr⟩ := h.exists_result hrow
  rw [(h.of_mem_trace hr).2]
  refine ⟨r.ids.first.toInt, fun k id hid => ?_⟩
  cases hbundles : r.bundles with
  | none =>
    rw [hbundles] at hid
    nomatch hid
  | some bundles =>
    rw [hbundles] at hid
    have hmembers := (buildRow_linked h.isReady (h.buildRow_eq hr) hbundles).1
    have hid : r.ids.members[k]? = some id := hmembers ▸ hid
    exact (h.fits_of_mem hfits hr).toInt_of_getElem? hid

theorem exists_provider (h : Done s source i) {b : Bundle} (hb : b ∈ i.bundles) :
    b.IsLinked ∧ ∃ p ∈ i.providers, (∃ row ∈ s.rows source, p.Made row b) ∧
      ∀ v ∈ b.variants, v.orthographyId = p.orthographyId := by
  obtain ⟨row, r, bundles, hr, hbundles, hb⟩ := h.mem_bundles_iff.1 hb
  have hbuild := h.buildRow_eq hr
  obtain ⟨_, _, hsome, hchain, -⟩ :=
    buildRow_of_succeeds h.isReady (h.succeeds_of_bundles hr hbundles) hbuild
  obtain rfl := Option.some.inj (hbundles.symm.trans hsome)
  obtain ⟨p, hp, hmade⟩ := hchain.made hb
  exact ⟨(buildRow_linked h.isReady hbuild hbundles).2 b hb, p, h.providers_eq ▸ hp,
    ⟨row, (List.of_mem_zip hr).1, hmade⟩, hmade.orthographyId_eq (h.isReady p hp)⟩

/-- No two rows have drawn the same id. -/
theorem not_mem_ids (h : Done s source i) (hfits : (s.ids source).Fits)
    (hr : (row, r) ∈ s.trace source) (hnone : r.bundles = none) {id : Int64}
    (hid : id ∈ r.ids.members) : ∀ b ∈ i.bundles, id ∉ b.ids := by
  intro b hb hmem
  have hpairwise := hfits.members_descend
  rw [h.members_eq_trace, List.pairwise_flatMap] at hpairwise
  obtain ⟨row', r', bundles, hr', hbundles, hb⟩ := h.mem_bundles_iff.1 hb
  have hid' := mem_members_of_buildRow h.isReady (h.buildRow_eq hr') hbundles hb hmem
  have hne : (row, r) ≠ (row', r') := by
    rintro ⟨⟩
    nomatch hnone.symm.trans hbundles
  have hsymm : Std.Symm fun t u : Row × RowResult => t.2.ids.members.Disjoint u.2.ids.members :=
    ⟨fun _ _ h _ hid hid' => h hid' hid⟩
  have hdisjoint : (s.trace source).Pairwise fun t u =>
      t.2.ids.members.Disjoint u.2.ids.members :=
    hpairwise.2.imp fun hgt id hid hid' => Int64.lt_irrefl (hgt id hid id hid')
  exact hdisjoint.forall hr hr' hne hid hid'

end Done

/-- The ids of a run descend, and its bundles hang together. -/
theorem Run.numbered {s : Setup} {source : Source} {i : Importer} (hrun : Run s [source] i)
    (hdone : i.state = .done) (hfirst : s.first < 0) (hfits : (s.ids source).Fits) :
    (variantIds i.bundles).Pairwise (· > ·) ∧
    (∀ id ∈ variantIds i.bundles, id ≤ s.first ∧ id < 0) ∧
    (∀ row ∈ s.rows source, ∃ f : Int, ∀ (k : Nat) id,
      (variantIds (i.bundles.filter (·.line == row.line)))[k]? = some id → id.toInt = f - k) ∧
    (∀ b ∈ i.bundles, b.IsLinked ∧ ∃ p ∈ i.providers, (∃ row ∈ s.rows source, p.Made row b) ∧
      ∀ v ∈ b.variants, v.orthographyId = p.orthographyId) ∧
    ∀ row r, (row, r) ∈ s.trace source → r.bundles = none →
      ∀ id ∈ r.ids.members, ∀ b ∈ i.bundles, id ∉ b.ids := by
  have h := hrun.done hdone
  refine ⟨hfits.members_descend.sublist h.ids_sublist, fun id hid => ?_,
    fun row hrow => h.variantIds_of_row hfits hrow, fun b hb => h.exists_provider hb,
    fun row r hr hnone id hid => h.not_mem_ids hfits hr hnone hid⟩
  have hle := hfits.members_le_first (h.ids_sublist.subset hid)
  exact ⟨hle, Int64.lt_of_le_of_lt hle hfirst⟩

theorem Run.numbered_sample :
    ∃ i, Run (.sample .misc) [sampleSource] i ∧ (variantIds i.bundles).Pairwise (· > ·) ∧
      ∀ id ∈ variantIds i.bundles, id ≤ -1 ∧ id < 0 := by
  obtain ⟨i, hrun, hdone⟩ := exists_run_sample
  obtain ⟨hdescend, hnegative, -⟩ := Run.numbered hrun hdone (by decide) (by decide +kernel)
  exact ⟨i, hrun, hdescend, hnegative⟩

end Importer

end Wordbook
