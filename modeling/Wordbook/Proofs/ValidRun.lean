import Wordbook.Proofs.Numbering
import Wordbook.Proofs.Validity

/-!
# The bundles of a run and their schema

All rules of the schema of bundles are kept by every run, but for one: an
infinitive of nothing but bars leaves a form without text.

* `Importer.Done.isValid_iff`: a bundle is valid if none of its forms is empty;
* `Importer.Run.valid_iff_no_bare_infinitive`: which runs have valid bundles only.
-/

namespace Wordbook

/-- No form of a bundle is empty. -/
def Bundle.IsFilled (b : Bundle) : Prop := ∀ v ∈ b.variants, ∀ f ∈ v.forms, f.text ≠ ""

/-- What holds of the variants of a bundle whatever its row says. -/
structure Bundle.IsSound (b : Bundle) : Prop where
  forms_ne_nil : ∀ v ∈ b.variants, v.forms ≠ []
  length_le : ∀ v ∈ b.variants, ∀ f ∈ v.forms, f.text.length ≤ Creation.maxFormLength
  tag_ne_empty : ∀ v ∈ b.variants, ∀ e ∈ v.properties.entries, "" ∉ e.2

namespace BundleDraft

variable {b : BundleDraft} (tag : String) (row : Row) (first : Int64)

theorem bundle_isSound (hb : b.IsSound) : (b.bundle tag row first).IsSound where
  forms_ne_nil v hv := by
    obtain ⟨d, hd, k, id, rfl⟩ := Draft.exists_of_mem_lexeme hv
    exact fun h => (hb.sound d hd).forms_ne_nil (List.map_eq_nil_iff.1 h)
  length_le v hv := by
    obtain ⟨d, hd, k, id, rfl⟩ := Draft.exists_of_mem_lexeme hv
    exact List.forall_mem_map.2 (hb.sound d hd).length_le
  tag_ne_empty v hv := by
    obtain ⟨d, hd, k, id, rfl⟩ := Draft.exists_of_mem_lexeme hv
    exact (hb.sound d hd).tag_ne_empty

theorem bundle_isFilled_iff : (b.bundle tag row first).IsFilled ↔ b.IsFilled := by
  constructor
  · intro h d hd f hf
    obtain ⟨k, hk⟩ := List.mem_iff_getElem?.1 hd
    have hv := Draft.getElem?_lexeme b.provider.orthographyId first b.drafts k
    rw [hk, Option.map_some] at hv
    exact List.forall_mem_map.1 (h _ (List.mem_of_getElem? hv)) f hf
  · intro h v hv
    obtain ⟨d, hd, k, id, rfl⟩ := Draft.exists_of_mem_lexeme hv
    exact List.forall_mem_map.2 (h d hd)

theorem bundles_isFilled_iff {bs : List BundleDraft} :
    (∀ b ∈ bundles tag row first bs, b.IsFilled) ↔ ∀ b ∈ bs, b.IsFilled := by
  induction bs generalizing first with
  | nil => simp [bundles]
  | cons b bs ih =>
    rw [bundles, List.forall_mem_cons, List.forall_mem_cons, bundle_isFilled_iff, ih]

end BundleDraft

/-- Only an infinitive of nothing but bars leaves a form of a row empty. -/
theorem buildRow_sound {ps : List Provider} (hps : ∀ p ∈ ps, p.IsReady) {posColumn : Nat}
    {row : Row} {first : Int64} {r : RowResult} (h : buildRow ps posColumn row first = .ok r)
    {bundles : List Bundle} (hbundles : r.bundles = some bundles) :
    (∀ b ∈ bundles, b.IsSound) ∧ ((∀ b ∈ bundles, b.IsFilled) ↔
      ∀ p ∈ ps, ¬p.LeavesEmpty (row.cell posColumn) row) := by
  obtain ⟨⟨remarks, drawn, outcome⟩, hsuit, hs⟩ := exists_buildRow_eq hps posColumn row
  obtain rfl := Except.ok.inj ((hs row rfl first).symm.trans h)
  cases outcome with
  | error failure => nomatch hbundles
  | ok bs =>
    obtain rfl := Option.some.inj hbundles
    obtain ⟨-, hbs⟩ := hsuit bs rfl
    refine ⟨fun b hb => ?_, (BundleDraft.bundles_isFilled_iff ..).trans hbs.filled_iff⟩
    obtain ⟨draft, hdraft, first', rfl⟩ := BundleDraft.mem_bundles hb
    exact BundleDraft.bundle_isSound _ _ _ (hbs.sound draft hdraft)

/-- The tags of the creators and the codes of the languages are not empty. -/
structure Config.IsNamed (c : Config) : Prop where
  language : ∀ p ∈ c.providers, p.language ≠ ""
  tag : ∀ p ∈ c.providers, ∀ creator ∈ p.creators, creator.tag ≠ ""

/-- A language is found by its own code. -/
theorem Reference.code_of_language? {rc : ReferenceConfig} {code : String} {language : Language}
    (h : (ofConfig rc).language? code = some language) : language.code = code := by
  have hmem := mem_of_lookup ((SortedMap.get?_ofList _ code).symm.trans h)
  obtain ⟨l, -, hl⟩ := List.mem_map.1 (List.mem_reverse.1 hmem)
  obtain ⟨rfl, rfl⟩ := Prod.mk.inj hl
  rfl

theorem Provider.Made.pos_ne_empty {c : Config} (hc : c.IsNamed) {reference : Reference}
    {ps : List Provider} (hps : c.resolve reference = .ok ps) {p : Provider} (hp : p ∈ ps)
    {row : Row} {b : Bundle} (h : p.Made row b) : b.pos ≠ "" := by
  obtain ⟨pc, hpc, -, hcreators⟩ := Config.exists_of_mem_resolve hps hp
  obtain ⟨bound, _, _, _, hbound, -⟩ := h
  obtain ⟨cc, hcc, htag, -⟩ := hcreators bound (List.mem_of_find?_eq_some hbound)
  have hpos : (bound.creator.tag == b.pos) = true :=
    List.find?_some (p := fun bound : BoundCreator => bound.creator.tag == b.pos) hbound
  rw [← beq_iff_eq.1 hpos, htag]
  exact hc.tag pc hpc cc hcc

theorem Provider.Made.language_ne_empty {c : Config} (hc : c.IsNamed) {rc : ReferenceConfig}
    {ps : List Provider} (hps : c.resolve (Reference.ofConfig rc) = .ok ps) {p : Provider}
    (hp : p ∈ ps) {row : Row} {b : Bundle} (h : p.Made row b) : b.language ≠ "" := by
  obtain ⟨pc, hpc, hlanguage, -⟩ := Config.exists_of_mem_resolve hps hp
  obtain ⟨_, _, _, _, -, -, vs, -, hb⟩ := h
  rw [hb]
  show p.language.code ≠ ""
  rw [Reference.code_of_language? hlanguage]
  exact hc.language pc hpc

/-! ## Runs -/

namespace Importer

variable {s : Setup} {source : Source} {i : Importer}

namespace Done

theorem bundle_isSound (h : Done s source i) {b : Bundle} (hb : b ∈ i.bundles) : b.IsSound := by
  obtain ⟨row, r, bundles, hr, hbundles, hb⟩ := h.mem_bundles_iff.1 hb
  exact (buildRow_sound h.isReady (h.buildRow_eq hr) hbundles).1 b hb

/-- A form of some bundle is empty if a row leaves one empty and no provider fails on it. -/
theorem isFilled_iff (h : Done s source i) :
    (∀ b ∈ i.bundles, b.IsFilled) ↔ ∀ row ∈ s.rows source,
      (∀ p ∈ i.providers, p.Succeeds (row.cell s.config.posColumn) row) →
      ∀ p ∈ i.providers, ¬p.LeavesEmpty (row.cell s.config.posColumn) row := by
  rw [h.providers_eq]
  constructor
  · intro hfilled row hrow hsucceed
    obtain ⟨r, hr⟩ := h.exists_result hrow
    have hbuild := h.buildRow_eq hr
    obtain ⟨bundles, _, hbundles, -⟩ := buildRow_of_succeeds h.isReady hsucceed hbuild
    refine (buildRow_sound h.isReady hbuild hbundles).2.1 fun b hb => hfilled b ?_
    exact h.mem_bundles_iff.2 ⟨row, r, bundles, hr, hbundles, hb⟩
  · intro hrows b hb
    obtain ⟨row, r, bundles, hr, hbundles, hb⟩ := h.mem_bundles_iff.1 hb
    have hbuild := h.buildRow_eq hr
    refine (buildRow_sound h.isReady hbuild hbundles).2.2 ?_ b hb
    refine hrows row (List.of_mem_zip hr).1 (h.succeeds_of_bundles hr hbundles)

/-- Of all that the schema asks for, a bundle may lack nothing but the texts of its forms. -/
theorem isValid_iff {rc : ReferenceConfig} (h : Done s source i)
    (hreference : s.reference = Reference.ofConfig rc) (hnamed : s.config.IsNamed)
    (hfirst : s.first < 0) (hfits : (s.ids source).Fits) {b : Bundle} (hb : b ∈ i.bundles) :
    b.IsValid ↔ b.IsFilled := by
  have hsound := h.bundle_isSound hb
  obtain ⟨hlinked, p, hp, ⟨row, hrow, hmade⟩, -⟩ := h.exists_provider hb
  rw [h.providers_eq] at hp
  have hresolve := h.resolve_eq
  rw [hreference] at hresolve
  have hline : 1 ≤ b.line := by
    obtain ⟨_, hline, -⟩ := Setup.exists_line hrow
    obtain ⟨_, _, _, _, -, -, _, -, hb⟩ := hmade
    rw [hb]
    exact (Source.mem_numberedLines_iff.1 hline).1
  have hid : ∀ v ∈ b.variants, v.id ≤ -1 := by
    intro v hv
    have hmem : v.id ∈ variantIds i.bundles :=
      List.mem_flatMap.2 ⟨b, hb, List.mem_map_of_mem hv⟩
    have hle := hfits.members_le_first (h.ids_sublist.subset hmem)
    have hneg := Int64.lt_iff_toInt_lt.1 (Int64.lt_of_le_of_lt hle hfirst)
    exact Int64.le_iff_toInt_le.2 (Int.le_sub_one_of_lt hneg)
  constructor
  · intro hvalid v hv f hf hempty
    have hpos := ((hvalid.variants v hv).forms f hf).length_pos
    rw [hempty] at hpos
    nomatch hpos
  · intro hfilled
    refine ⟨hmade.language_ne_empty hnamed hresolve hp, hmade.pos_ne_empty hnamed h.resolve_eq hp,
      hline, ?_, fun v hv => ?_⟩
    · obtain ⟨v, vs, hvs⟩ := List.exists_cons_of_ne_nil hlinked.variants_ne_nil
      refine ⟨v, hvs ▸ List.mem_cons_self, (hlinked.main_iff 0 v ?_).2 rfl⟩
      rw [hvs]
      rfl
    · refine ⟨hid v hv, hlinked.dialects v hv, hsound.forms_ne_nil v hv, fun f hf => ?_,
        hsound.tag_ne_empty v hv⟩
      refine ⟨⟨v.id, hlinked.variantId_eq v hv f hf, hid v hv⟩, ?_, hsound.length_le v hv f hf⟩
      have hne : f.text.length ≠ 0 := fun h => hfilled v hv f hf (String.length_eq_zero_iff.1 h)
      omega

end Done

/-- Every rule of the schema holds of every bundle, but that forms have a text. They all have one
unless an infinitive of nothing but bars is found in a row that no provider fails on. -/
theorem Run.valid_iff_no_bare_infinitive {rc : ReferenceConfig} (hrun : Run s [source] i)
    (hdone : i.state = .done) (hreference : s.reference = Reference.ofConfig rc)
    (hnamed : s.config.IsNamed) (hfirst : s.first < 0) (hfits : (s.ids source).Fits) :
    (Bundle.invalid i.bundles = [] ↔ ∀ row ∈ s.rows source,
      (∀ p ∈ i.providers, p.Succeeds (row.cell s.config.posColumn) row) →
      ∀ p ∈ i.providers, ¬p.LeavesEmpty (row.cell s.config.posColumn) row) ∧
    ∀ b ∈ i.bundles, (Bundle.schema.messages b.toJson = [] ↔ b.IsFilled) ∧
      ∀ v ∈ b.variants, ∀ f ∈ v.forms, f.text.length ≤ 100 := by
  have h := hrun.done hdone
  have hvalid (b) (hb : b ∈ i.bundles) : b.IsValid ↔ b.IsFilled :=
    h.isValid_iff hreference hnamed hfirst hfits hb
  refine ⟨?_, fun b hb => ⟨Bundle.messages_eq_nil_iff.trans (hvalid b hb),
    (h.bundle_isSound hb).length_le⟩⟩
  rw [Bundle.invalid_eq_nil_iff, ← h.isFilled_iff]
  exact forall₂_congr hvalid

/-- The provider of a sample of verbs. -/
def sampleVerbs : Provider where
  language := ⟨1, "nds", ""⟩
  orthographyId := 7
  dialects := ⟨∅, ∅⟩
  creators := [⟨⟨"x", 1, .verb, some ⟨⟨1, "infinitive", 0⟩, ⟨2, "infinitive_divided", 0⟩,
    ⟨3, "present_3sg", 0⟩, ⟨4, "preterite_3sg", 0⟩, ⟨5, "participle", 0⟩⟩⟩, none⟩]

theorem Setup.resolve_sample_verb :
    (Setup.sample .verb).config.resolve (Setup.sample .verb).reference = .ok [sampleVerbs] := by
  let reference := Reference.ofConfig sampleReference
  have hparadigm : reference.paradigm? "x" = some ⟨⟨1, "x"⟩, sampleSlots, by decide⟩ := by
    show (Paradigm.ofSlots ⟨1, "x"⟩ sampleSlots).toOption = _
    rw [Paradigm.ofSlots_of_pairwise (by decide) (by decide)]
    rfl
  show ((reference.addParadigm ∅ "x" >>= pure) >>= fun table =>
    (Setup.sample .verb).config.providers.mapM (ProviderConfig.resolve reference table)) = _
  rw [Reference.addParadigm, hparadigm]
  rfl

/-- A verb that is a single bar is accepted, and its bundle is not valid. -/
theorem Run.invalid_bar :
    ∃ i, Run (.sample .verb) [⟨"x\t|", "utf-8"⟩] i ∧ i.state = .done ∧
      Bundle.invalid i.bundles ≠ [] := by
  obtain ⟨i, hrun, hdone⟩ := Setup.exists_run (.sample .verb) ⟨"x\t|", "utf-8"⟩
    (Text.writeUtf8 "x\t|".toList) (by rw [Setup.resolve_sample_verb]; rfl) (by decide)
  have hresolved := Setup.providers_eq Setup.resolve_sample_verb
  have hproviders : i.providers = [sampleVerbs] := (hrun.done hdone).providers_eq.trans hresolved
  have hfits : ((Setup.sample .verb).ids ⟨"x\t|", "utf-8"⟩).Fits := by
    rw [Setup.ids, Setup.results, hresolved]
    decide +kernel
  obtain ⟨hvalid, -⟩ := Run.valid_iff_no_bare_infinitive hrun hdone rfl
    ⟨by decide, by decide⟩ (by decide) hfits
  refine ⟨i, hrun, hdone, fun hinvalid => ?_⟩
  refine hvalid.1 hinvalid ⟨1, ["x", "|"]⟩ (by decide) ?_ sampleVerbs (by simp [hproviders]) ?_
  · rw [hproviders]
    intro p hp bound hbound
    obtain rfl := List.mem_singleton.1 hp
    obtain rfl := Option.some.inj hbound
    exact ⟨⟨⟨-1, 0⟩, []⟩, _, _, _, _, rfl, rfl, rfl⟩
  · exact ⟨_, rfl, ⟨[], ['|']⟩, ['|'], ∅, 0, ['|'], by decide, by decide, by decide, by simp⟩

end Importer

end Wordbook
