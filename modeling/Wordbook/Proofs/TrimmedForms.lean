import Wordbook.Proofs.Bundle
import Wordbook.Proofs.Escapes
import Wordbook.Proofs.Separators

/-!
# Blanks around forms

A spelling has no blank at either end, and most of what is done to it keeps its
ends or trims them again. Only the bars of an infinitive are taken away without a
look at what stands next to them.

* `Text.trim_withoutBars_iff`: a text that keeps its ends when it loses its bars;
* `Grammar.MakesAll.trimmed`: the forms of a cell;
* `Creator.forms_trimmed`: the forms of a row.
-/

namespace Wordbook

open Text (isBlank trim)

namespace Text

/-- Whether a blank stands behind the bars that a text begins with, or before those it ends with. -/
def HasGapAtBars (t : List Char) : Prop :=
  ∃ bars c rest, (∀ b ∈ bars, b = '|') ∧ isBlank c ∧
    (t = bars ++ c :: rest ∨ t = rest ++ c :: bars)

theorem head?_withoutBars_iff {t : List Char} {c : Char} (hc : c ≠ '|') :
    (t.filter (· != '|')).head? = some c ↔
      ∃ bars rest, (∀ b ∈ bars, b = '|') ∧ t = bars ++ c :: rest := by
  rw [List.head?_filter, List.find?_eq_some_iff_append]
  simp only [bne_iff_ne, ne_eq, hc, not_false_eq_true, true_and, Bool.not_eq_eq_eq_not,
    Bool.not_true, bne_eq_false_iff_eq]
  exact ⟨fun ⟨bars, rest, ht, hbars⟩ => ⟨bars, rest, hbars, ht⟩,
    fun ⟨bars, rest, hbars, ht⟩ => ⟨bars, rest, ht, hbars⟩⟩

theorem getLast?_withoutBars_iff {t : List Char} {c : Char} (hc : c ≠ '|') :
    (t.filter (· != '|')).getLast? = some c ↔
      ∃ bars rest, (∀ b ∈ bars, b = '|') ∧ t = rest ++ c :: bars := by
  rw [← List.head?_reverse, ← List.filter_reverse, head?_withoutBars_iff hc]
  constructor
  · rintro ⟨bars, rest, hbars, ht⟩
    refine ⟨bars.reverse, rest.reverse, fun b hb => hbars b (List.mem_reverse.1 hb), ?_⟩
    rw [← List.reverse_reverse t, ht]
    simp
  · rintro ⟨bars, rest, hbars, rfl⟩
    exact ⟨bars.reverse, rest.reverse, fun b hb => hbars b (List.mem_reverse.1 hb), by simp⟩

theorem trim_withoutBars_iff {t : List Char} :
    trim (t.filter (· != '|')) = t.filter (· != '|') ↔ ¬HasGapAtBars t := by
  have hne {c : Char} (hblank : isBlank c) : c ≠ '|' := by
    rintro rfl
    exact absurd hblank (by decide)
  rw [trim_eq_self_iff]
  constructor
  · rintro ⟨hhead, hlast⟩ ⟨bars, c, rest, hbars, hblank, ht | ht⟩
    · have hfirst := hhead c ((head?_withoutBars_iff (hne hblank)).2 ⟨bars, rest, hbars, ht⟩)
      exact absurd (hblank.symm.trans hfirst) (by decide)
    · have hend := hlast c ((getLast?_withoutBars_iff (hne hblank)).2 ⟨bars, rest, hbars, ht⟩)
      exact absurd (hblank.symm.trans hend) (by decide)
  · refine fun hgap => ⟨fun c hc => Bool.eq_false_iff.2 fun hblank => hgap ?_,
      fun c hc => Bool.eq_false_iff.2 fun hblank => hgap ?_⟩
    · obtain ⟨bars, rest, hbars, ht⟩ := (head?_withoutBars_iff (hne hblank)).1 hc
      exact ⟨bars, c, rest, hbars, hblank, .inl ht⟩
    · obtain ⟨bars, rest, hbars, ht⟩ := (getLast?_withoutBars_iff (hne hblank)).1 hc
      exact ⟨bars, c, rest, hbars, hblank, .inr ht⟩

end Text

theorem Multi.trim_unescape {t : List Char} (h : trim t = t) : trim (unescape t) = unescape t := by
  rw [Text.trim_eq_self_iff] at h ⊢
  constructor
  · intro c hc
    by_cases hparenthesis : c ∈ parentheses
    · have hfilled : ∀ c ∈ parentheses, isBlank c = false :=
        List.forall_mem_cons.2 ⟨by decide, List.forall_mem_singleton.2 (by decide)⟩
      exact hfilled c hparenthesis
    · -- No other character than a parenthesis is moved to the front.
      simp only [parentheses, List.mem_cons, List.not_mem_nil, or_false, not_or] at hparenthesis
      exact h.1 c (head?_dropEscapes hparenthesis.1 (head?_dropEscapes hparenthesis.2 hc))
  · rw [unescape, getLast?_dropEscapes, getLast?_dropEscapes]
    exact h.2

/-- A text whose dashes stand for another one ends like itself or like that one. -/
theorem Noun.trim_flatMap {token singular : List Char} (htoken : trim token = token)
    (hsingular : trim singular = singular) (hne : singular ≠ []) :
    trim (token.flatMap fun c => if c = '-' then singular else [c]) =
      token.flatMap fun c => if c = '-' then singular else [c] := by
  rw [Text.trim_eq_self_iff] at htoken hsingular ⊢
  constructor
  · cases token with
    | nil => nofun
    | cons c token =>
      rw [List.flatMap_cons, List.head?_append]
      split
      · rw [List.head?_eq_some_head hne, Option.some_or, ← List.head?_eq_some_head hne]
        exact hsingular.1
      · exact htoken.1
  · cases token using List.reverseRecOn with
    | nil => nofun
    | append_singleton token c =>
      rw [List.flatMap_append, List.flatMap_singleton, List.getLast?_append]
      split
      · rw [List.getLast?_eq_some_getLast hne, Option.some_or, ← List.getLast?_eq_some_getLast hne]
        exact hsingular.2
      · rw [List.getLast?_concat] at htoken
        exact htoken.2

theorem Noun.trim_expandPlural {token singular text : List Char} {state : FormState}
    (htoken : trim token = token) (hsingular : trim singular = singular) (hne : singular ≠ [])
    (h : expandPlural token singular = .ok (text, state)) : trim text = text := by
  unfold expandPlural at h
  split at h
  · obtain ⟨rfl, -⟩ := Prod.mk.inj (Except.ok.inj h)
    exact htoken
  · obtain ⟨rfl, -⟩ := Prod.mk.inj (Except.ok.inj h)
    exact trim_flatMap htoken hsingular hne
  · nomatch h

theorem Cell.trim_takeLeadingAuxiliary (t : List Char) :
    trim (takeLeadingAuxiliary t).1 = (takeLeadingAuxiliary t).1 := by
  unfold takeLeadingAuxiliary
  dsimp only
  split
  · split <;> exact Text.trim_trim _
  · exact Text.trim_trim _

theorem Cell.trim_alternative {part text : List Char} {k : Nat}
    (h : alternative part k = .ok text) : trim text = text := by
  obtain ⟨piece, -, -, rfl⟩ := alternative_eq_ok_iff.1 h
  exact Text.trim_trim piece

/-! ## Forms -/

namespace Draft

/-- No form has a blank at an end. -/
def IsTrimmed (d : Draft) : Prop := ∀ f ∈ d.forms, trim f.text.toList = f.text.toList

/-- No form that is typed has a blank at an end. -/
def IsTypedTrimmed (d : Draft) : Prop :=
  ∀ f ∈ d.forms, f.state = .typed → trim f.text.toList = f.text.toList

theorem IsTrimmed.typed {d : Draft} (h : d.IsTrimmed) : d.IsTypedTrimmed := fun f hf _ => h f hf

end Draft

section

variable {spellings : List (List Char)} {d : Draft}

theorem SpellingMakes.trimmed {base : Slot} {edit : List Char → List Char}
    (hedit : ∀ t, trim t = t → trim (edit t) = edit t) (ht : ∀ t ∈ spellings, trim t = t)
    (h : SpellingMakes base edit spellings d) : d.IsTrimmed := by
  unfold SpellingMakes at h
  split at h
  · subst h
    simpa [Draft.IsTrimmed] using hedit _ (ht _ List.mem_cons_self)
  · exact h.elim

theorem Noun.Makes.trimmed {style : NounStyle} {slots : NounSlots} {genera : SortedSet String}
    (ht : ∀ t ∈ spellings, trim t = t) (h : Noun.Makes style slots genera spellings d) :
    d.IsTrimmed := by
  cases style with
  | genusSuffix =>
    change SuffixMakes slots genera spellings d at h
    unfold SuffixMakes at h
    split at h
    · subst h
      simpa [Draft.IsTrimmed] using ht
    · subst h
      simpa [Draft.IsTrimmed] using ht
    · exact h.elim
  | articlePrefix =>
    change ArticleMakes slots spellings d at h
    have htrim {t singular : List Char} {genus : String}
        (harticle : Cell.takeArticle t = .ok (singular, genus)) : trim singular = singular := by
      obtain ⟨_, -, _, _, -, -, rfl⟩ := Cell.exists_of_takeArticle harticle
      exact Text.trim_trim _
    unfold ArticleMakes at h
    split at h
    · obtain ⟨singular, genus, harticle, rfl⟩ := h
      simpa [Draft.IsTrimmed] using htrim harticle
    · obtain ⟨singular, genus, harticle, plural, state, hplural, rfl⟩ := h
      have htoken := ht _ (List.mem_cons_of_mem _ List.mem_cons_self)
      have hne := (Cell.takeArticle_eq_ok harticle).1
      simpa [Draft.IsTrimmed] using
        And.intro (htrim harticle) (trim_expandPlural htoken (htrim harticle) hne hplural)
    · exact h.elim

/-- What is left of an infinitive without its bars is trimmed only if no gap is at an end. -/
theorem Verb.infinitives_trimmed (slots : VerbSlots) {text : List Char} (ht : trim text = text) :
    (∀ f ∈ infinitives slots text, f.state = .typed → trim f.text.toList = f.text.toList) ∧
      ((∀ f ∈ infinitives slots text, trim f.text.toList = f.text.toList) ↔
        ¬Text.HasGapAtBars text) := by
  unfold infinitives
  split
  · simp only [List.forall_mem_cons, Slot.toList_form_text, Text.trim_withoutBars_iff, ht,
      List.not_mem_nil, false_imp_iff, implies_true, and_true]
    exact nofun
  · rename_i hbar
    have hself : text.filter (· != '|') = text := by
      refine List.filter_eq_self.2 fun c hc => bne_iff_ne.2 ?_
      rintro rfl
      exact hbar (List.contains_iff_mem.2 hc)
    have hgap : ¬Text.HasGapAtBars text := Text.trim_withoutBars_iff.1 (by rw [hself, ht])
    simp [ht, hgap]

theorem Verb.Makes.trimmed {slots : VerbSlots} {listed : SortedSet String} {text : List Char}
    (ht : ∀ t ∈ text :: spellings, trim t = t) (h : Verb.Makes slots listed (text :: spellings) d) :
    d.IsTypedTrimmed ∧ (d.IsTrimmed ↔ ¬Text.HasGapAtBars text) := by
  have hinfinitives := infinitives_trimmed slots (ht text List.mem_cons_self)
  unfold Verb.Makes at h
  split at h
  · rename_i heq
    obtain ⟨rfl, -⟩ := List.cons_eq_cons.1 heq
    subst h
    exact hinfinitives
  · rename_i infinitive present preterite participle heq
    obtain ⟨rfl, rfl⟩ := List.cons_eq_cons.1 heq
    obtain ⟨last, marker, hleading, rfl⟩ := h
    obtain rfl : (Cell.takeLeadingAuxiliary participle).1 = last := congrArg Prod.fst hleading
    have hothers : ∀ f ∈ [slots.present.form present .typed, slots.preterite.form preterite .typed,
        slots.participle.form (Cell.takeLeadingAuxiliary participle).1 .typed],
        trim f.text.toList = f.text.toList := by
      simp only [List.forall_mem_cons, Slot.toList_form_text]
      exact ⟨ht present (by simp), ht preterite (by simp), Cell.trim_takeLeadingAuxiliary _, nofun⟩
    rw [Draft.IsTypedTrimmed, Draft.IsTrimmed, List.forall_mem_append, List.forall_mem_append,
      and_iff_left hothers]
    exact ⟨⟨hinfinitives.1, fun f hf _ => hothers f hf⟩, hinfinitives.2⟩
  · exact h.elim

end

namespace Grammar

/-- Whether a grammar generates a form with a blank at an end from a cell, unless it fails. -/
def LeavesGap (g : Grammar) (cell : List Char) : Prop := g.SomeInfinitive Text.HasGapAtBars cell

theorem trim_of_forall₂ {parts spellings : List (List Char)} {k : Nat}
    (h : List.Forall₂ (fun part t => Cell.alternative part k = .ok t) parts spellings) :
    ∀ t ∈ spellings, trim t = t := by
  intro t ht
  obtain ⟨part, -, hpart⟩ := exists_of_mem_forall₂ h.flip ht
  exact Cell.trim_alternative hpart

theorem MakesAll.trimmed {g : Grammar} {slots : g.Slots} {cell : List Char} {ds : List Draft}
    (h : g.MakesAll slots cell ds) :
    (∀ d ∈ ds, d.IsTypedTrimmed) ∧ ((∀ d ∈ ds, d.IsTrimmed) ↔ ¬g.LeavesGap cell) := by
  obtain ⟨parts, tags, hparts, hmade⟩ := h
  have htrimmed (hall : ∀ d ∈ ds, d.IsTrimmed) :
      (∀ d ∈ ds, d.IsTypedTrimmed) ∧ ((∀ d ∈ ds, d.IsTrimmed) ↔ ¬False) :=
    ⟨fun d hd => (hall d hd).typed, iff_of_true hall not_false⟩
  cases g with
  | noun style =>
    exact htrimmed <| hmade.forall fun k d ⟨spellings, hspellings, hmakes, _⟩ =>
      Noun.Makes.trimmed (trim_of_forall₂ hspellings) hmakes
  | verb =>
    have hread : Cell.takeTags cell Verb.fullSize Cell.takeAuxiliaries = .ok (parts, tags) := hparts
    obtain ⟨first, rest, rfl⟩ := List.exists_cons_of_ne_nil (Cell.takeTags_ne_nil hread)
    refine ⟨hmade.forall fun k d ⟨_, hspellings, hmakes, _⟩ => ?_,
      Verb.forall_iff_not_someInfinitive hread hmade fun k text spellings d hspellings hmakes _ =>
        (Verb.Makes.trimmed (trim_of_forall₂ hspellings) hmakes).2⟩
    obtain ⟨text, spellings, -, -, rfl⟩ := List.forall₂_cons_left_iff.1 hspellings
    exact (Verb.Makes.trimmed (trim_of_forall₂ hspellings) hmakes).1
  | misc =>
    exact htrimmed <| hmade.forall fun k d ⟨spellings, hspellings, hmakes, _⟩ =>
      SpellingMakes.trimmed (fun _ => id) (trim_of_forall₂ hspellings) hmakes
  | multi separator allowMultiWord =>
    exact htrimmed <| hmade.forall fun k d ⟨spellings, hspellings, hmakes, _⟩ =>
      SpellingMakes.trimmed (fun _ => Multi.trim_unescape) (trim_of_forall₂ hspellings) hmakes

theorem trimmed_of_forall₂ {g : Grammar} {slots : g.Slots} {parts : List (List Char)}
    {gs : List (List Draft)} (h : List.Forall₂ (g.MakesAll slots) parts gs) :
    (∀ ds ∈ gs, ∀ d ∈ ds, d.IsTypedTrimmed) ∧
      ((∀ ds ∈ gs, ∀ d ∈ ds, d.IsTrimmed) ↔ ∀ part ∈ parts, ¬g.LeavesGap part) := by
  induction h with
  | nil => simp
  | cons hds _ ih =>
    obtain ⟨htyped, htrimmed⟩ := ih
    obtain ⟨htyped', htrimmed'⟩ := hds.trimmed
    rw [List.forall_mem_cons, List.forall_mem_cons, List.forall_mem_cons, htrimmed, htrimmed']
    exact ⟨⟨htyped', htyped⟩, Iff.rfl⟩

end Grammar

/-- Forms as they are typed have no blank at an end. Neither have those that are generated, but for
an infinitive with a gap at the bars that it begins or ends with. -/
theorem Creator.forms_trimmed {c : Creator} {slots : c.grammar.Slots}
    (hslots : c.slots = some slots) (label : String) (orthographyId : Int64) (row : Row) :
    (∀ text, ∃ creation, c.createText label orthographyId row text = .ok creation ∧
      ∀ ledger vs after, creation ledger = (.ok vs, after) →
        (∀ v ∈ vs, ∀ f ∈ v.forms, f.state = .typed → trim f.text.toList = f.text.toList) ∧
        ((∀ v ∈ vs, ∀ f ∈ v.forms, trim f.text.toList = f.text.toList) ↔
          ¬c.grammar.LeavesGap text)) ∧
    ∃ creation, c.createLexemes label orthographyId row = .ok creation ∧
      ∀ ledger groups after, creation ledger = (.ok groups, after) →
        (∀ vs ∈ groups, ∀ v ∈ vs, ∀ f ∈ v.forms,
          f.state = .typed → trim f.text.toList = f.text.toList) ∧
        ((∀ vs ∈ groups, ∀ v ∈ vs, ∀ f ∈ v.forms, trim f.text.toList = f.text.toList) ↔
          ¬c.grammar.LeavesGap (c.cell row)) := by
  let IsTrimmed (text : String) (_ : FormState) : Prop := trim text.toList = text.toList
  let IfTyped (text : String) (state : FormState) : Prop :=
    state = .typed → trim text.toList = text.toList
  constructor
  · intro text
    refine ⟨_, by rw [createText, hslots], fun ledger vs after hvs => ?_⟩
    cases htext : Text.isBlankText text with
    | true =>
      rw [Grammar.create_blank _ _ _ _ htext] at hvs
      obtain rfl := Except.ok.inj (congrArg Prod.fst hvs).symm
      exact ⟨List.forall_mem_nil _, iff_of_true (List.forall_mem_nil _)
        (c.grammar.not_someInfinitive_of_blank htext)⟩
    | false =>
      obtain ⟨ds, hds, rfl⟩ :=
        (c.grammar.create_determined slots c.tag htext).apply_eq_ok_iff.1 ⟨after, hvs⟩
      rw [Draft.forall_form_lexeme (P := IfTyped), Draft.forall_form_lexeme (P := IsTrimmed)]
      exact hds.trimmed
  · refine ⟨_, by rw [createLexemes, hslots], fun ledger groups after hgroups => ?_⟩
    obtain ⟨gs, hgs, rfl⟩ :=
      (c.grammar.createLexemes_determined slots c.tag (c.cell row)).apply_eq_ok_iff.1
        ⟨after, hgroups⟩
    obtain ⟨htyped, htrimmed⟩ := Grammar.trimmed_of_forall₂ hgs
    rw [Draft.forall_form_lexemes (P := IfTyped), Draft.forall_form_lexemes (P := IsTrimmed),
      Grammar.LeavesGap, c.grammar.someInfinitive_iff, not_exists]
    simp only [not_and]
    exact ⟨htyped, htrimmed⟩

def Creator.sampleVerb : Creator :=
  ⟨"verb", 0, .verb, some ⟨⟨1, "infinitive", 1⟩, ⟨2, "infinitive_divided", 2⟩,
    ⟨3, "present_3sg", 3⟩, ⟨4, "preterite_3sg", 4⟩, ⟨5, "participle", 5⟩⟩⟩

/-- A bar with a blank behind it: the blank is left when the bar is taken away. -/
theorem Creator.forms_trimmed_bar :
    ∃ creation vs after, sampleVerb.create "v" 1 ⟨2, ["| geaven"]⟩ = .ok creation ∧
      creation ⟨(-1 : Int64), []⟩ = (.ok vs, after) ∧
      vs.flatMap (fun v => v.forms.map fun f => (f.text, f.state)) =
        [(" geaven", .generated), ("| geaven", .typed)] ∧
      (∀ v ∈ vs, ∀ f ∈ v.forms, f.state = .typed → trim f.text.toList = f.text.toList) ∧
      ¬∀ v ∈ vs, ∀ f ∈ v.forms, trim f.text.toList = f.text.toList := by
  obtain ⟨creation, hcreation, hforms⟩ :=
    (@forms_trimmed sampleVerb _ rfl "v" 1 ⟨2, ["| geaven"]⟩).1 "| geaven".toList
  obtain ⟨creation', vs, after, hcreation', hrun, htexts⟩ := Creation.exists_of_map
    (sampleVerb.create "v" 1 ⟨2, ["| geaven"]⟩) ⟨(-1 : Int64), []⟩
    (fun vs => vs.flatMap fun v => v.forms.map fun f => (f.text, f.state))
    [(" geaven", .generated), ("| geaven", .typed)] (by decide +kernel)
  obtain rfl := Except.ok.inj (hcreation'.symm.trans hcreation)
  obtain ⟨htyped, htrimmed⟩ := hforms _ vs after hrun
  refine ⟨creation', vs, after, hcreation', hrun, htexts, htyped, fun hall => htrimmed.1 hall ?_⟩
  exact ⟨⟨[], "| geaven".toList⟩, "| geaven".toList, ∅, 0, "| geaven".toList, by decide +kernel,
    by decide +kernel, by decide +kernel, ['|'], ' ', "geaven".toList,
    fun b hb => List.mem_singleton.1 hb, by decide, .inl rfl⟩

end Wordbook
