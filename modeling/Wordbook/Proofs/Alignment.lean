import Wordbook.Proofs.Spelling

/-!
# Alternatives at their places

The variant at an index is made of the pieces at that index, one from each part;
a part with a single piece lends it to every variant. The parts have to fit.

* `MadeOf.aligned`: the parts of a cell with variants fit;
* `Creator.positional`: the variants of a text, for all grammars.
-/

namespace Wordbook

theorem MadeOf.aligned {makes : List (List Char) → Draft → Prop} {parts : List (List Char)}
    {ds : List Draft} (hne : parts ≠ []) (h : MadeOf makes parts ds) :
    Cell.Aligned parts ds.length := by
  obtain ⟨hlength, hds⟩ := h
  rw [hlength, Cell.aligned_iff hne]
  intro k hk part hpart
  rw [← hlength] at hk
  obtain ⟨spellings, hspellings, -⟩ := hds k ds[k] (List.getElem?_eq_getElem hk)
  obtain ⟨text, -, htext⟩ := exists_of_mem_forall₂ hspellings hpart
  exact ⟨text, htext⟩

namespace Grammar

open Text (isBlankText pieces trim)

/-- The variants of a text, each made of the pieces at its own index. -/
def Spelled (g : Grammar) (slots : g.Slots) (orthographyId : Int64) (text : List Char)
    (vs : List Variant) : Prop :=
  ∃ parts tags, g.takeApart text = .ok (parts, tags) ∧ Cell.Aligned parts vs.length ∧
    ∀ k v, vs[k]? = some v → ∃ spellings d,
      List.Forall₂ (fun part spelling => ∃ piece,
        Cell.shared? (pieces '~' part) k = some piece ∧ trim piece = spelling) parts spellings ∧
      g.Makes slots tags spellings d ∧ v = d.variant k orthographyId v.id

/-- Whether a part of a text has too few pieces for its variants, or a blank one. -/
def Misaligned (g : Grammar) (text : List Char) : Prop :=
  ∃ parts tags, g.takeApart text = .ok (parts, tags) ∧ ∃ part ∈ parts,
    (1 < Cell.alternativeCount part ∧ Cell.alternativeCount part < Cell.maxAlternatives parts) ∨
      ∃ piece ∈ pieces '~' part, isBlankText piece

theorem MakesAll.spelled {g : Grammar} {slots : g.Slots} {text : List Char} {ds : List Draft}
    (h : g.MakesAll slots text ds) (orthographyId first : Int64) :
    g.Spelled slots orthographyId text (Draft.lexeme orthographyId first ds) := by
  obtain ⟨parts, tags, hparts, hmade⟩ := h
  refine ⟨parts, tags, hparts, ?_, fun k v hv => ?_⟩
  · rw [Draft.length_lexeme]
    exact hmade.aligned (parts_ne_nil hparts)
  · rw [Draft.lexeme, List.getElem?_mapIdx] at hv
    obtain ⟨d, hd, rfl⟩ := Option.map_eq_some_iff.1 hv
    obtain ⟨spellings, hspellings, hmakes, -⟩ := hmade.2 k d hd
    refine ⟨spellings, d, hspellings.imp fun part spelling h => ?_, hmakes, rfl⟩
    obtain ⟨piece, hpiece, -, htrim⟩ := Cell.alternative_eq_ok_iff.1 h
    exact ⟨piece, hpiece, htrim⟩

theorem not_makesAll_of_misaligned {g : Grammar} {text : List Char} (h : g.Misaligned text)
    (slots : g.Slots) (ds : List Draft) : ¬g.MakesAll slots text ds := by
  rintro ⟨parts, tags, hparts, hmade⟩
  obtain ⟨parts', tags', hparts', part, hpart, hpieces⟩ := h
  obtain ⟨rfl, -⟩ := Prod.mk.inj (Except.ok.inj (hparts.symm.trans hparts'))
  have haligned := hmade.aligned (parts_ne_nil hparts)
  rcases hpieces with ⟨hone, hmax⟩ | ⟨piece, hpiece, hblank⟩
  · rw [← hmade.1] at hmax
    rcases haligned.count part hpart with hcount | hcount <;> omega
  · exact absurd hblank (Bool.eq_false_iff.1 (haligned.filled part hpart piece hpiece))

theorem forall₂_spelled {g : Grammar} {slots : g.Slots} {texts : List (List Char)}
    {gs : List (List Draft)} (h : List.Forall₂ (g.MakesAll slots) texts gs)
    (orthographyId first : Int64) :
    List.Forall₂ (g.Spelled slots orthographyId) texts (Draft.lexemes orthographyId first gs) := by
  induction h generalizing first with
  | nil => exact .nil
  | cons hds _ ih => exact .cons (hds.spelled orthographyId first) (ih _)

end Grammar

/-- A creator that is initialised makes the variant at each index of the pieces at that index, and
makes no variants of parts that do not fit. So it does for every lexeme of a row. -/
theorem Creator.positional {c : Creator} {slots : c.grammar.Slots} (hslots : c.slots = some slots)
    (label : String) (orthographyId : Int64) (row : Row) :
    (∀ text, Text.isBlankText text = false → ∃ creation,
      c.createText label orthographyId row text = .ok creation ∧ ∀ ledger,
        (∀ vs after, creation ledger = (.ok vs, after) →
          c.grammar.Spelled slots orthographyId text vs) ∧
        (c.grammar.Misaligned text → ∃ e after, creation ledger = (.error e, after))) ∧
    ((∀ part ∈ c.lexemeParts row, Text.isBlankText part = false) → ∃ creation,
      c.createLexemes label orthographyId row = .ok creation ∧ ∀ ledger,
        (∀ groups after, creation ledger = (.ok groups, after) →
          List.Forall₂ (c.grammar.Spelled slots orthographyId) (c.lexemeParts row) groups) ∧
        ((∃ part ∈ c.lexemeParts row, c.grammar.Misaligned part) →
          ∃ e after, creation ledger = (.error e, after))) := by
  constructor
  · intro text htext
    have hcreate := c.grammar.create_determined slots c.tag htext
    refine ⟨c.grammar.create slots c.tag (c.context label orthographyId row) text,
      by rw [createText, hslots], fun ledger => ⟨fun vs after hvs => ?_, fun hmis => ?_⟩⟩
    · obtain ⟨ds, hds, rfl⟩ := hcreate.apply_eq_ok_iff.1 ⟨after, hvs⟩
      exact hds.spelled _ _
    · exact hcreate.exists_error (Grammar.not_makesAll_of_misaligned hmis slots) _ _
  · intro hrow
    rw [lexemeParts_eq] at hrow ⊢
    have hcreate := c.grammar.createLexemes_determined slots c.tag (c.cell row)
    rw [Grammar.filledParts_eq_lexemeParts hrow] at hcreate
    refine ⟨c.grammar.createLexemes slots c.tag (c.context label orthographyId row) (c.cell row),
      by rw [createLexemes, hslots], fun ledger => ⟨fun groups after hgroups => ?_,
        fun ⟨part, hpart, hmis⟩ => ?_⟩⟩
    · obtain ⟨gs, hgs, rfl⟩ := hcreate.apply_eq_ok_iff.1 ⟨after, hgroups⟩
      exact Grammar.forall₂_spelled hgs _ _
    · refine hcreate.exists_error (fun gs hgs => ?_) _ _
      obtain ⟨ds, -, hds⟩ := exists_of_mem_forall₂ hgs hpart
      exact Grammar.not_makesAll_of_misaligned hmis slots ds hds

/-- A creation that is known to succeed, from a fact about what it creates. -/
theorem Creation.exists_of_map {α β : Type} (made : Except Fault (Creation α)) (ledger : Ledger)
    (f : α → β) (b : β)
    (h : made.toOption.map (fun creation => (creation ledger).1.toOption.map f) = some (some b)) :
    ∃ creation a after, made = .ok creation ∧ creation ledger = (.ok a, after) ∧ f a = b := by
  cases made with
  | error fault => nomatch h
  | ok creation =>
    cases hrun : creation ledger with
    | mk result after =>
      simp only [Except.toOption, Option.map_some, hrun] at h
      cases result with
      | error e => nomatch h
      | ok a => exact ⟨creation, a, after, rfl, hrun, Option.some.inj (Option.some.inj h)⟩

def Creator.sampleNoun (style : NounStyle) : Creator :=
  ⟨"n", 0, .noun style, some ⟨⟨1, "singular", 0⟩, ⟨2, "plural", 1⟩⟩⟩

/-- A singular that is written in two ways shares its plural; two plurals have no place for three
singulars. -/
theorem Creator.positional_noun :
    (∃ creation vs after, (sampleNoun .genusSuffix).createText "n" 1 ⟨2, []⟩
        "Huus ~ Hus, Hüser (n)".toList = .ok creation ∧
      creation ⟨(-1 : Int64), []⟩ = (.ok vs, after) ∧ vs.length = 2 ∧
      (sampleNoun .genusSuffix).grammar.Spelled (⟨⟨1, "singular", 0⟩, ⟨2, "plural", 1⟩⟩ : NounSlots)
        1 "Huus ~ Hus, Hüser (n)".toList vs) ∧
    ∃ creation e after, (sampleNoun .genusSuffix).createText "n" 1 ⟨2, []⟩
        "A ~ B ~ C, D ~ E (m)".toList = .ok creation ∧
      creation ⟨(-1 : Int64), []⟩ = (.error e, after) := by
  have h := (@positional (sampleNoun .genusSuffix) _ rfl "n" 1 ⟨2, []⟩).1
  constructor
  · obtain ⟨creation, hcreation, hvariants⟩ := h "Huus ~ Hus, Hüser (n)".toList (by decide +kernel)
    have hlength : ((sampleNoun .genusSuffix).createText "n" 1 ⟨2, []⟩
        "Huus ~ Hus, Hüser (n)".toList).toOption.map (fun creation =>
          (creation ⟨(-1 : Int64), []⟩).1.toOption.map List.length) = some (some 2) := by
      decide +kernel
    rw [hcreation] at hlength
    cases hrun : creation ⟨(-1 : Int64), []⟩ with
    | mk result after =>
      rw [Except.toOption, Option.map_some, hrun] at hlength
      cases result with
      | error e => simp [Except.toOption] at hlength
      | ok vs =>
        exact ⟨creation, vs, after, hcreation, hrun, by simpa [Except.toOption] using hlength,
          (hvariants _).1 vs after hrun⟩
  · obtain ⟨creation, hcreation, hvariants⟩ := h "A ~ B ~ C, D ~ E (m)".toList (by decide +kernel)
    have hmis : (sampleNoun .genusSuffix).grammar.Misaligned "A ~ B ~ C, D ~ E (m)".toList :=
      ⟨["A ~ B ~ C".toList, "D ~ E".toList], .singleton "m", by decide +kernel, "D ~ E".toList,
        List.mem_cons_of_mem _ List.mem_cons_self, .inl (by decide +kernel)⟩
    obtain ⟨e, after, hrun⟩ := (hvariants ⟨(-1 : Int64), []⟩).2 hmis
    exact ⟨creation, e, after, hcreation, hrun⟩

end Wordbook
