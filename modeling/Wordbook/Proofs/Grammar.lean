import Wordbook.Proofs.Spelling

/-!
# What grammars create

Whatever a variant is made of, it is sound. Forms without text come from
infinitives of bars only, and from nothing else.

* `Grammar.MakesAll.sound`: the variants of a cell;
* `Grammar.createLexemes_sketches`: the lexemes of a cell are those of a sketch,
  none of them without variants, and all their variants are sound.
-/

namespace Wordbook

open Creation

namespace Draft

/-- What holds of a variant whatever its cell says. -/
structure IsSound (d : Draft) : Prop where
  forms_ne_nil : d.forms ≠ []
  length_le : ∀ f ∈ d.forms, f.text.length ≤ maxFormLength
  tag_ne_empty : ∀ e ∈ d.properties.entries, "" ∉ e.2

/-- No form of a variant is empty. -/
def IsFilled (d : Draft) : Prop := ∀ f ∈ d.forms, f.text ≠ ""

end Draft

theorem Properties.ofTags_ne_empty (name : String) {tags : SortedSet String} (h : "" ∉ tags) :
    ∀ e ∈ (Properties.ofTags name tags).entries, "" ∉ e.2 := by
  intro e he
  unfold Properties.ofTags at he
  split at he
  · nomatch he
  · rwa [List.mem_singleton.1 he]

theorem Slot.form_text_ne_empty (slot : Slot) {text : List Char} (state : FormState)
    (h : text ≠ []) : (slot.form text state).text ≠ "" := by
  rwa [form, Ne, String.ofList_eq_empty_iff]

section

variable {makes : List (List Char) → Draft → Prop} {parts : List (List Char)} {k : Nat} {d : Draft}

theorem Cell.isBlankText_spellings {spellings : List (List Char)}
    (h : List.Forall₂ (fun part text => alternative part k = .ok text) parts spellings) :
    ∀ t ∈ spellings, Text.isBlankText t = false := by
  intro t ht
  obtain ⟨part, -, hpart⟩ := exists_of_mem_forall₂ h.flip ht
  exact isBlankText_alternative hpart

/-- No variant is made of blank spellings. -/
theorem MadeAt.filled (h : MadeAt makes parts k d) :
    ∃ spellings, (∀ t ∈ spellings, Text.isBlankText t = false) ∧ makes spellings d ∧ d.IsShort := by
  obtain ⟨spellings, hspellings, hmade⟩ := h
  exact ⟨spellings, Cell.isBlankText_spellings hspellings, hmade⟩

theorem MadeOf.forall {P : Draft → Prop} {ds : List Draft} (h : MadeOf makes parts ds)
    (hP : ∀ k d, MadeAt makes parts k d → P d) : ∀ d ∈ ds, P d := by
  intro d hd
  obtain ⟨k, hk⟩ := List.mem_iff_getElem?.1 hd
  exact hP k d (h.2 k d hk)

end

theorem Cell.takeTags_ne_empty {cell : List Char} {expected : Nat}
    {take : List Char → Except CellError (List Char × SortedSet String)} {parts : List (List Char)}
    {tags : SortedSet String} (h : Cell.takeTags cell expected take = .ok (parts, tags))
    (htake : ∀ {t last : List Char} {tags : SortedSet String},
      take t = .ok (last, tags) → "" ∉ tags) : "" ∉ tags := by
  obtain ⟨p, -, h⟩ := bind_eq_ok_iff.1 h
  obtain ⟨⟨last, tags'⟩, hlast, heq⟩ := bind_eq_ok_iff.1 h
  obtain ⟨-, rfl⟩ := Prod.mk.inj (Except.ok.inj heq)
  exact htake hlast

theorem SpellingMakes.sound {base : Slot} {edit : List Char → List Char}
    {spellings : List (List Char)} {d : Draft} (hedit : ∀ t, t ≠ [] → edit t ≠ [])
    (hfilled : ∀ t ∈ spellings, Text.isBlankText t = false)
    (h : SpellingMakes base edit spellings d) (hshort : d.IsShort) : d.IsSound ∧ d.IsFilled := by
  unfold SpellingMakes at h
  split at h
  · subst h
    have htext := Text.ne_nil_of_filled (hfilled _ List.mem_cons_self)
    exact ⟨⟨List.cons_ne_nil _ _, hshort, nofun⟩,
      List.forall_mem_singleton.2 (base.form_text_ne_empty _ (hedit _ htext))⟩
  · exact h.elim

namespace Multi

theorem dropEscapes_ne_nil (c : Char) {t : List Char} (h : t ≠ []) : dropEscapes c t ≠ [] := by
  match t with
  | [] => exact absurd rfl h
  | [_] => simp [dropEscapes]
  | _ :: _ :: _ =>
    unfold dropEscapes
    split <;> simp

theorem unescape_ne_nil {t : List Char} (h : t ≠ []) : unescape t ≠ [] :=
  dropEscapes_ne_nil ')' (dropEscapes_ne_nil '(' h)

end Multi

/-! ## Nouns -/

namespace Noun

theorem expandPlural_ne_nil {plural singular text : List Char} {state : FormState}
    (hplural : plural ≠ []) (hsingular : singular ≠ [])
    (h : expandPlural plural singular = .ok (text, state)) : text ≠ [] := by
  unfold expandPlural at h
  split at h
  · obtain ⟨rfl, -⟩ := Prod.mk.inj (Except.ok.inj h)
    exact hplural
  · obtain ⟨rfl, -⟩ := Prod.mk.inj (Except.ok.inj h)
    obtain ⟨c, rest, rfl⟩ := List.exists_cons_of_ne_nil hplural
    rw [List.flatMap_cons]
    refine List.append_ne_nil_of_left_ne_nil ?_ _
    split
    · exact hsingular
    · simp
  · nomatch h

variable {slots : NounSlots} {spellings : List (List Char)} {d : Draft}

theorem SuffixMakes.sound {genera : SortedSet String} (hgenera : "" ∉ genera)
    (hfilled : ∀ t ∈ spellings, Text.isBlankText t = false)
    (h : SuffixMakes slots genera spellings d) (hshort : d.IsShort) : d.IsSound ∧ d.IsFilled := by
  have htags := Properties.ofTags_ne_empty generaProperty hgenera
  have hne (t) (ht : t ∈ spellings) : t ≠ [] := Text.ne_nil_of_filled (hfilled t ht)
  unfold SuffixMakes at h
  split at h
  · subst h
    exact ⟨⟨List.cons_ne_nil _ _, hshort, htags⟩,
      List.forall_mem_singleton.2 (Slot.form_text_ne_empty _ _ (hne _ List.mem_cons_self))⟩
  · subst h
    exact ⟨⟨List.cons_ne_nil _ _, hshort, htags⟩, List.forall_mem_cons.2
      ⟨Slot.form_text_ne_empty _ _ (hne _ (by simp)),
        List.forall_mem_singleton.2 (Slot.form_text_ne_empty _ _ (hne _ (by simp)))⟩⟩
  · exact h.elim

theorem ArticleMakes.sound (hfilled : ∀ t ∈ spellings, Text.isBlankText t = false)
    (h : ArticleMakes slots spellings d) (hshort : d.IsShort) : d.IsSound ∧ d.IsFilled := by
  unfold ArticleMakes at h
  split at h
  · obtain ⟨singular, genus, harticle, rfl⟩ := h
    have hsingular := (Cell.takeArticle_eq_ok harticle).1
    have htags := Properties.ofTags_ne_empty generaProperty (Cell.takeArticle_ne_empty harticle)
    exact ⟨⟨List.cons_ne_nil _ _, hshort, htags⟩,
      List.forall_mem_singleton.2 (Slot.form_text_ne_empty _ _ hsingular)⟩
  · obtain ⟨singular, genus, harticle, plural, state, hplural, rfl⟩ := h
    have hsingular := (Cell.takeArticle_eq_ok harticle).1
    have htags := Properties.ofTags_ne_empty generaProperty (Cell.takeArticle_ne_empty harticle)
    have htoken := Text.ne_nil_of_filled (hfilled _ (List.mem_cons_of_mem _ List.mem_cons_self))
    have hplural := expandPlural_ne_nil htoken hsingular hplural
    exact ⟨⟨List.cons_ne_nil _ _, hshort, htags⟩, List.forall_mem_cons.2
      ⟨Slot.form_text_ne_empty _ _ hsingular,
        List.forall_mem_singleton.2 (Slot.form_text_ne_empty _ _ hplural)⟩⟩
  · exact h.elim

end Noun

/-! ## Verbs -/

namespace Verb

/-- Whether some infinitive of a cell is nothing but bars. What is generated from it is empty. -/
def HasBareInfinitive (cell : List Char) : Prop :=
  ∃ parts last listed index text, Cell.Parts.ofCell cell fullSize = .ok parts ∧
    Cell.takeAuxiliaries parts.last = .ok (last, listed) ∧
    Cell.alternative { parts with last := last }.first index = .ok text ∧ ∀ c ∈ text, c = '|'

/-- Whether `P` holds of some infinitive of a cell. -/
def SomeInfinitive (P : List Char → Prop) (cell : List Char) : Prop :=
  ∃ parts last listed index text, Cell.Parts.ofCell cell fullSize = .ok parts ∧
    Cell.takeAuxiliaries parts.last = .ok (last, listed) ∧
    Cell.alternative { parts with last := last }.first index = .ok text ∧ P text

section

variable {P : List Char → Prop} {cell first : List Char} {rest : List (List Char)}
  {listed : SortedSet String}

theorem someInfinitive_iff
    (h : Cell.takeTags cell fullSize Cell.takeAuxiliaries = .ok (first :: rest, listed)) :
    SomeInfinitive P cell ↔ ∃ k text, Cell.alternative first k = .ok text ∧ P text := by
  obtain ⟨parts, hparts, h⟩ := bind_eq_ok_iff.1 h
  obtain ⟨⟨last, tags⟩, hlast, heq⟩ := bind_eq_ok_iff.1 h
  obtain ⟨htoList, -⟩ := Prod.mk.inj (Except.ok.inj heq)
  have hfirst : { parts with last := last }.first = first := Cell.Parts.first_eq_of_toList htoList
  constructor
  · rintro ⟨parts', last', listed', index, text, hparts', hlast', htext, hP⟩
    obtain rfl := Except.ok.inj (hparts.symm.trans hparts')
    obtain ⟨rfl, -⟩ := Prod.mk.inj (Except.ok.inj (hlast.symm.trans hlast'))
    exact ⟨index, text, hfirst ▸ htext, hP⟩
  · rintro ⟨k, text, htext, hP⟩
    exact ⟨parts, last, tags, k, text, hparts, hlast, hfirst ▸ htext, hP⟩

theorem not_someInfinitive_of_blank (h : Text.isBlankText cell) : ¬SomeInfinitive P cell := by
  rintro ⟨parts, last, listed, index, text, hparts, hlast, htext, -⟩
  rw [Cell.Parts.ofCell, Text.trim_eq_nil_iff.2 h] at hparts
  obtain rfl := Except.ok.inj hparts
  obtain ⟨rfl, -⟩ := Prod.mk.inj (Except.ok.inj hlast)
  nomatch htext

/-- What holds of a variant unless `P` holds of its infinitive holds of all variants of a cell
unless `P` holds of some infinitive. -/
theorem forall_iff_not_someInfinitive {slots : VerbSlots} {Q : Draft → Prop} {ds : List Draft}
    (hread : Cell.takeTags cell fullSize Cell.takeAuxiliaries = .ok (first :: rest, listed))
    (h : MadeOf (Makes slots listed) (first :: rest) ds)
    (hQ : ∀ k text spellings d, List.Forall₂ (fun part t => Cell.alternative part k = .ok t)
      (first :: rest) (text :: spellings) → Makes slots listed (text :: spellings) d → d.IsShort →
        (Q d ↔ ¬P text)) :
    (∀ d ∈ ds, Q d) ↔ ¬SomeInfinitive P cell := by
  have hmakes (k : Nat) (d : Draft) (hd : ds[k]? = some d) :
      ∃ text, Cell.alternative first k = .ok text ∧ (Q d ↔ ¬P text) := by
    obtain ⟨_, hspellings, hmakes, hshort⟩ := h.2 k d hd
    obtain ⟨text, ts, htext, hts, rfl⟩ := List.forall₂_cons_left_iff.1 hspellings
    exact ⟨text, htext, hQ k text ts d hspellings hmakes hshort⟩
  rw [someInfinitive_iff hread]
  constructor
  -- The infinitive is the alternative of some variant, even if it is found beyond all of them.
  · rintro hall ⟨k, text, htext, hP⟩
    obtain ⟨j, hj, htext⟩ := Cell.exists_alternative_lt htext
    have hlt : j < ds.length :=
      h.1 ▸ Nat.lt_of_lt_of_le hj (Cell.alternativeCount_le List.mem_cons_self)
    obtain ⟨text', htext', hiff⟩ := hmakes j ds[j] (List.getElem?_eq_getElem hlt)
    obtain rfl := Except.ok.inj (htext.symm.trans htext')
    exact hiff.1 (hall _ (List.getElem_mem hlt)) hP
  · intro hnone d hd
    obtain ⟨k, hk⟩ := List.mem_iff_getElem?.1 hd
    obtain ⟨text, htext, hiff⟩ := hmakes k d hk
    exact hiff.2 fun hP => hnone ⟨k, text, htext, hP⟩

end

variable {slots : VerbSlots} {text : List Char} {spellings : List (List Char)} {d : Draft}

theorem infinitives_ne_nil (slots : VerbSlots) (text : List Char) :
    infinitives slots text ≠ [] := by
  unfold infinitives
  split <;> exact List.cons_ne_nil _ _

theorem infinitives_filled_iff (slots : VerbSlots) (h : text ≠ []) :
    (∀ f ∈ infinitives slots text, f.text ≠ "") ↔ ¬∀ c ∈ text, c = '|' := by
  have hwhole := slots.divided.form_text_ne_empty .typed h
  unfold infinitives
  split
  · rw [List.forall_mem_cons, List.forall_mem_singleton, and_iff_left hwhole]
    simp [Slot.form, String.ofList_eq_empty_iff]
  · rename_i hbar
    rw [List.forall_mem_singleton]
    refine iff_of_true (slots.infinitive.form_text_ne_empty .typed h) fun hall => hbar ?_
    obtain ⟨c, rest, rfl⟩ := List.exists_cons_of_ne_nil h
    simp [hall c List.mem_cons_self]

theorem allAuxiliaries_ne_empty {listed : SortedSet String} (hlisted : "" ∉ listed)
    {marker : Option String} (hmarker : ∀ verb ∈ marker, verb ≠ "") :
    "" ∉ allAuxiliaries listed marker := by
  cases marker with
  | none => exact hlisted
  | some verb =>
    intro hmem
    rcases SortedSet.mem_of_mem_insert hmem with heq | hmem
    · exact hmarker verb rfl heq.symm
    · exact hlisted hmem

theorem Makes.sound {listed : SortedSet String} (hlisted : "" ∉ listed)
    (hfilled : ∀ t ∈ text :: spellings, Text.isBlankText t = false)
    (h : Makes slots listed (text :: spellings) d) (hshort : d.IsShort) :
    d.IsSound ∧ (d.IsFilled ↔ ¬∀ c ∈ text, c = '|') := by
  have hne (t) (ht : t ∈ text :: spellings) : t ≠ [] := Text.ne_nil_of_filled (hfilled t ht)
  have hinfinitives := infinitives_ne_nil slots text
  have hbars := infinitives_filled_iff slots (hne text List.mem_cons_self)
  unfold Makes at h
  split at h
  · rename_i heq
    obtain ⟨rfl, -⟩ := List.cons_eq_cons.1 heq
    subst h
    exact ⟨⟨hinfinitives, hshort, Properties.ofTags_ne_empty _ hlisted⟩, hbars⟩
  · rename_i infinitive present preterite participle heq
    obtain ⟨rfl, rfl⟩ := List.cons_eq_cons.1 heq
    obtain ⟨last, marker, hleading, rfl⟩ := h
    have hlast : last ≠ [] := by
      have hne := Cell.takeLeadingAuxiliary_ne_nil (hfilled participle (by simp))
      rwa [hleading] at hne
    have hmarker : ∀ verb ∈ marker, verb ≠ "" := by
      rintro verb rfl
      exact Cell.takeLeadingAuxiliary_ne_empty (congrArg Prod.snd hleading)
    have hothers : ∀ f ∈ [slots.present.form present .typed, slots.preterite.form preterite .typed,
        slots.participle.form last .typed], f.text ≠ "" := by
      simp only [List.forall_mem_cons, List.not_mem_nil, false_imp_iff, implies_true, and_true]
      exact ⟨Slot.form_text_ne_empty _ _ (hne _ (by simp)),
        Slot.form_text_ne_empty _ _ (hne _ (by simp)), Slot.form_text_ne_empty _ _ hlast⟩
    refine ⟨⟨List.append_ne_nil_of_left_ne_nil hinfinitives _, hshort,
      Properties.ofTags_ne_empty _ (allAuxiliaries_ne_empty hlisted hmarker)⟩, ?_⟩
    rw [Draft.IsFilled, List.forall_mem_append, and_iff_left hothers]
    exact hbars
  · exact h.elim

theorem sound_of_madeOf {cell : List Char} {parts : List (List Char)} {listed : SortedSet String}
    {ds : List Draft}
    (hread : Cell.takeTags cell fullSize Cell.takeAuxiliaries = .ok (parts, listed))
    (h : MadeOf (Makes slots listed) parts ds) :
    (∀ d ∈ ds, d.IsSound) ∧ ((∀ d ∈ ds, d.IsFilled) ↔ ¬HasBareInfinitive cell) := by
  have hlisted := Cell.takeTags_ne_empty hread Cell.takeAuxiliaries_ne_empty
  obtain ⟨first, rest, rfl⟩ := List.exists_cons_of_ne_nil (Cell.takeTags_ne_nil hread)
  have hsound (k : Nat) (text : List Char) (spellings : List (List Char)) (d : Draft)
      (hspellings : List.Forall₂ (fun part t => Cell.alternative part k = .ok t) (first :: rest)
        (text :: spellings)) (hmakes : Makes slots listed (text :: spellings) d)
      (hshort : d.IsShort) : d.IsSound ∧ (d.IsFilled ↔ ¬∀ c ∈ text, c = '|') :=
    Makes.sound hlisted (Cell.isBlankText_spellings hspellings) hmakes hshort
  refine ⟨h.forall fun k d ⟨_, hspellings, hmakes, hshort⟩ => ?_,
    forall_iff_not_someInfinitive hread h fun k text spellings d hspellings hmakes hshort =>
      (hsound k text spellings d hspellings hmakes hshort).2⟩
  obtain ⟨text, spellings, -, -, rfl⟩ := List.forall₂_cons_left_iff.1 hspellings
  exact (hsound k text spellings d hspellings hmakes hshort).1

end Verb

/-! ## All grammars -/

namespace Grammar

/-- Whether a grammar creates a form without text from a cell, unless it fails. -/
def LeavesEmpty (g : Grammar) (cell : List Char) : Prop :=
  match g with
  | verb => Verb.HasBareInfinitive cell
  | _ => False

section

variable {g : Grammar} {slots : g.Slots} {cell : List Char} {ds : List Draft}

theorem MakesAll.sound (h : g.MakesAll slots cell ds) :
    (∀ d ∈ ds, d.IsSound) ∧ ((∀ d ∈ ds, d.IsFilled) ↔ ¬g.LeavesEmpty cell) := by
  obtain ⟨parts, tags, hparts, hmade⟩ := h
  have hfilled (hall : ∀ d ∈ ds, d.IsSound ∧ d.IsFilled) :
      (∀ d ∈ ds, d.IsSound) ∧ ((∀ d ∈ ds, d.IsFilled) ↔ ¬False) :=
    ⟨fun d hd => (hall d hd).1, iff_of_true (fun d hd => (hall d hd).2) not_false⟩
  cases g with
  | noun style =>
    refine hfilled (hmade.forall fun k d hd => ?_)
    obtain ⟨spellings, hspellings, hmakes, hshort⟩ := hd.filled
    cases style with
    | genusSuffix =>
      have hread : Cell.takeTags cell 2 (Cell.takeGenus · Cell.nounGenera) = .ok (parts, tags) :=
        hparts
      have htags := Cell.takeTags_ne_empty hread (Cell.takeGenus_ne_empty (by decide))
      exact Noun.SuffixMakes.sound htags hspellings hmakes hshort
    | articlePrefix => exact Noun.ArticleMakes.sound hspellings hmakes hshort
  | verb => exact Verb.sound_of_madeOf hparts hmade
  | misc =>
    refine hfilled (hmade.forall fun k d hd => ?_)
    obtain ⟨spellings, hspellings, hmakes, hshort⟩ := hd.filled
    exact SpellingMakes.sound (fun _ => id) hspellings hmakes hshort
  | multi separator allowMultiWord =>
    refine hfilled (hmade.forall fun k d hd => ?_)
    obtain ⟨spellings, hspellings, hmakes, hshort⟩ := hd.filled
    exact SpellingMakes.sound (fun _ => Multi.unescape_ne_nil) hspellings hmakes hshort

end

/-- Whether `P` holds of some infinitive that a grammar finds in a cell. -/
def SomeInfinitive (g : Grammar) (P : List Char → Prop) (cell : List Char) : Prop :=
  match g with
  | verb => Verb.SomeInfinitive P cell
  | _ => False

theorem not_someInfinitive_of_blank (g : Grammar) {P : List Char → Prop} {cell : List Char}
    (h : Text.isBlankText cell) : ¬g.SomeInfinitive P cell := by
  cases g with
  | verb => exact Verb.not_someInfinitive_of_blank h
  | _ => exact id

/-- Only a part that is no blank has infinitives. -/
theorem someInfinitive_iff (g : Grammar) (P : List Char → Prop) (cell : List Char) :
    g.SomeInfinitive P cell ↔ ∃ part ∈ g.filledParts cell, g.SomeInfinitive P part := by
  cases g with
  | noun style => simp [SomeInfinitive]
  | misc => simp [SomeInfinitive]
  | multi separator allowMultiWord => simp [SomeInfinitive]
  | verb =>
    have hblank : Verb.SomeInfinitive P cell → Text.isBlankText cell = false := fun h =>
      Bool.eq_false_iff.2 fun hcell => Verb.not_someInfinitive_of_blank hcell h
    constructor
    · intro h
      exact ⟨cell, List.mem_filter.2 ⟨List.mem_cons_self, by simp [hblank h]⟩, h⟩
    · rintro ⟨part, hpart, h⟩
      obtain rfl := List.mem_singleton.1 (List.mem_of_mem_filter hpart)
      exact h

theorem leavesEmpty_eq (g : Grammar) :
    g.LeavesEmpty = g.SomeInfinitive fun text => ∀ c ∈ text, c = '|' := by
  cases g <;> rfl

theorem sound_of_forall₂ {g : Grammar} {slots : g.Slots} {parts : List (List Char)}
    {gs : List (List Draft)} (h : List.Forall₂ (g.MakesAll slots) parts gs) :
    (∀ ds ∈ gs, ds ≠ []) ∧ (∀ d ∈ gs.flatten, d.IsSound) ∧
      ((∀ d ∈ gs.flatten, d.IsFilled) ↔ ∀ part ∈ parts, ¬g.LeavesEmpty part) := by
  induction h with
  | nil => simp
  | cons hds _ ih =>
    obtain ⟨hne, hsound, hfilled⟩ := ih
    obtain ⟨hsound', hfilled'⟩ := hds.sound
    refine ⟨List.forall_mem_cons.2 ⟨hds.ne_nil, hne⟩,
      List.forall_mem_append.2 ⟨hsound', hsound⟩, ?_⟩
    rw [List.flatten_cons, List.forall_mem_append, List.forall_mem_cons, hfilled, hfilled']

theorem createLexemes_sketches (g : Grammar) (slots : g.Slots) (tag : String) (cell : List Char) :
    Sketches Draft.lexemes (fun gs => gs.flatten.length)
      (fun gs => (∀ ds ∈ gs, ds ≠ []) ∧ (∀ d ∈ gs.flatten, d.IsSound) ∧
        ((∀ d ∈ gs.flatten, d.IsFilled) ↔ ¬g.LeavesEmpty cell))
      fun ctx => g.createLexemes slots tag ctx cell := by
  refine (g.createLexemes_determined slots tag cell).sketches.imp fun gs hgs => ?_
  rw [g.leavesEmpty_eq, g.someInfinitive_iff, ← g.leavesEmpty_eq, not_exists]
  simp only [not_and]
  exact sound_of_forall₂ hgs

end Grammar

end Wordbook
