import Wordbook.Proofs.CreatorCalls
import Wordbook.Proofs.Events

/-!
# Long forms

A cell tells what variants to make of it, whatever the length of their forms is.
They are made if no form is too long, and the first one that is too long is told
otherwise. Warnings are about forms that are merely long, one for each; only a
creator of several lexemes has more of them, about the text of a lexeme.

* `Grammar.Drafts`: what the variants of a text are to be made of;
* `Grammar.create_follows`, `Grammar.createLexemes_follows`: the events of a creation;
* `Creator.long_forms`: the warnings of a creation, and the form that it fails with.
-/

namespace Wordbook

open Creation

/-- What is to be made of the spellings of some parts at an index. -/
def DraftedAt (makes : List (List Char) → Draft → Prop) (parts : List (List Char)) (k : Nat)
    (d : Draft) : Prop :=
  ∃ spellings, List.Forall₂ (fun part text => Cell.alternative part k = .ok text) parts spellings ∧
    makes spellings d

/-- What the variants at all indices of some parts are to be made of. -/
def DraftedOf (makes : List (List Char) → Draft → Prop) (parts : List (List Char))
    (ds : List Draft) : Prop :=
  ds.length = Cell.maxAlternatives parts ∧ ∀ k d, ds[k]? = some d → DraftedAt makes parts k d

section

variable {makes : List (List Char) → Draft → Prop} {parts : List (List Char)} {k : Nat} {d : Draft}

theorem draftedAt_nil : DraftedAt makes [] k d ↔ makes [] d := by
  simp [DraftedAt]

theorem draftedAt_cons {part : List Char} :
    DraftedAt makes (part :: parts) k d ↔
      ∃ text, Cell.alternative part k = .ok text ∧
        DraftedAt (fun ts => makes (text :: ts)) parts k d := by
  constructor
  · rintro ⟨_, hspellings, hmakes⟩
    obtain ⟨text, ts, htext, hts, rfl⟩ := List.forall₂_cons_left_iff.1 hspellings
    exact ⟨text, htext, ts, hts, hmakes⟩
  · rintro ⟨text, htext, ts, hts, hmakes⟩
    exact ⟨text :: ts, .cons htext hts, hmakes⟩

theorem madeAt_iff : MadeAt makes parts k d ↔ DraftedAt makes parts k d ∧ d.IsShort := by
  simp only [MadeAt, DraftedAt, ← and_assoc, exists_and_right]

theorem madeOf_iff {ds : List Draft} :
    MadeOf makes parts ds ↔ DraftedOf makes parts ds ∧ ∀ d ∈ ds, d.IsShort := by
  simp only [MadeOf, DraftedOf, madeAt_iff, forall_and, and_assoc]
  refine and_congr_right fun _ => and_congr_right fun _ => ?_
  simp only [List.mem_iff_getElem?, forall_exists_index]
  exact forall_comm

end

/-- What is remarked on in the text of a lexeme: a parenthesis, and then a blank between words. -/
def Grammar.remarks (g : Grammar) (tag : String) (text : List Char) : List String :=
  match g with
  | multi _ allowMultiWord =>
    let part := Text.trim text
    (if Multi.hasBareParenthesis false part then [Multi.parenthesisMessage (String.ofList part)]
      else []) ++
    (if !allowMultiWord && Multi.hasInnerBlank part then
      [Multi.innerBlankMessage (String.ofList part) tag] else [])
  | _ => []

/-- What the variants of a text are to be made of, however long their forms are. A blank text has
none. -/
def Grammar.Drafts (g : Grammar) (slots : g.Slots) (text : List Char) (ds : List Draft) : Prop :=
  if Text.isBlankText text then ds = []
  else ∃ parts tags, g.takeApart text = .ok (parts, tags) ∧ DraftedOf (g.Makes slots tags) parts ds

theorem spellings_follows (base : Slot) (edit : List Char → List Char) {text : List Char}
    {ds : List Draft} (h : DraftedOf (SpellingMakes base edit) [text] ds) :
    Follows Draft.lexeme List.length [base] (ds.flatMap Draft.events) ds
      fun ctx => spellings ctx base text edit := by
  obtain ⟨hlength, hds⟩ := h
  have hcount : Cell.maxAlternatives [text] = Cell.alternativeCount text := Nat.zero_max _
  unfold spellings
  rw [← hcount, ← hlength]
  refine .range fun k d hk => ?_
  have hd := hds k d hk
  simp only [draftedAt_cons, draftedAt_nil, SpellingMakes] at hd
  obtain ⟨spelling, hspelling, rfl⟩ := hd
  exact .bindLift hspelling <| .bindForm List.mem_cons_self _ _ <| .makeVariant ..

/-- A blank cell has no part. -/
theorem Creation.Follows.ifFilled {slots : List Slot} {events : List Event} {ds : List Draft}
    {cell : List Char} {c : Context → Creation (List Variant)}
    (hcell : Text.isBlankText cell = false)
    (h : Follows Draft.lexeme List.length slots events ds c) :
    Follows Draft.lexeme List.length slots events ds (fun ctx => do
      if Text.isBlankText cell then return []
      c ctx) := by
  simpa [hcell] using h

theorem Multi.createPart_follows (base : Slot) (tag : String) (separator : Char)
    (allowMultiWord : Bool) {part : List Char} (hpart : Text.isBlankText part = false)
    {ds : List Draft} (h : DraftedOf (SpellingMakes base unescape) [Text.trim part] ds) :
    Follows Draft.lexeme List.length [base]
      (((Grammar.multi separator allowMultiWord).remarks tag part).map .remark ++
        ds.flatMap Draft.events) ds
      fun ctx => createPart ctx base tag allowMultiWord part := by
  rw [Grammar.remarks, List.map_append, List.append_assoc]
  exact .ifFilled hpart <| .ifWarn (.ifWarn (spellings_follows base unescape h) _ _) _ _

theorem Creation.Follows.takeTags {slots : List Slot} {expected : Nat}
    {M : SortedSet String → List (List Char) → Draft → Prop}
    {step : Context → Cell.Parts → SortedSet String → Nat → Creation Variant} {cell : List Char}
    {take : List Char → Except CellError (List Char × SortedSet String)} {parts : List (List Char)}
    {tags : SortedSet String} {ds : List Draft}
    (hread : Cell.takeTags cell expected take = .ok (parts, tags))
    (hds : DraftedOf (M tags) parts ds)
    (h : ∀ (p : Cell.Parts) (k : Nat) (d : Draft),
      p.before = [] ∨ p.before.length + 1 = expected → DraftedAt (M tags) p.toList k d →
        Follows (Draft.variant k) (fun _ => 1) slots d.events d fun ctx => step ctx p tags k) :
    Follows Draft.lexeme List.length slots (ds.flatMap Draft.events) ds (fun ctx => do
      let parts ← Cell.Parts.ofCell cell expected
      let (last, tags) ← take parts.last
      let parts := { parts with last := last }
      (List.range (Cell.maxAlternatives parts.toList)).mapM (step ctx parts tags)) := by
  obtain ⟨p, hp, hread⟩ := bind_eq_ok_iff.1 hread
  obtain ⟨⟨last, tags'⟩, htake, heq⟩ := bind_eq_ok_iff.1 hread
  obtain ⟨rfl, rfl⟩ := Prod.mk.inj (Except.ok.inj heq)
  refine .bindLift hp <| .bindLift htake ?_
  obtain ⟨hlength, hds⟩ := hds
  show Follows _ _ _ _ _ fun ctx =>
    (List.range (Cell.maxAlternatives (p.before ++ [last]))).mapM _
  rw [← hlength]
  have hsize := Cell.Parts.size_of_ofCell hp
  exact .range fun k d hk => h { p with last := last } k d hsize (hds k d hk)

namespace Noun

variable {slots : NounSlots} {parts : Cell.Parts} {k : Nat} {d : Draft}

theorem singular_mem (slots : NounSlots) : slots.singular ∈ slots.toList := List.mem_cons_self

theorem plural_mem (slots : NounSlots) : slots.plural ∈ slots.toList := by simp [NounSlots.toList]

theorem suffixVariant_follows (hparts : parts.before = [] ∨ parts.before.length + 1 = 2)
    {genera : SortedSet String} (h : DraftedAt (SuffixMakes slots genera) parts.toList k d) :
    Follows (Draft.variant k) (fun _ => 1) slots.toList d.events d
      fun ctx => suffixVariant ctx slots parts genera k := by
  obtain ⟨before, last⟩ := parts
  rw [Cell.Parts.toList] at h
  rcases before with _ | ⟨first, _ | ⟨_, _⟩⟩
  · simp only [List.nil_append, draftedAt_cons, draftedAt_nil, SuffixMakes] at h
    obtain ⟨singular, hsingular, rfl⟩ := h
    exact .bindLift hsingular <| .bindForm (singular_mem slots) _ _ <| .makeVariant ..
  · simp only [List.cons_append, List.nil_append, draftedAt_cons, draftedAt_nil, SuffixMakes] at h
    obtain ⟨singular, hsingular, plural, hplural, rfl⟩ := h
    exact .bindLift hsingular <| .bindForm (singular_mem slots) _ _ <| .bindLift hplural <|
      .bindForm (plural_mem slots) _ _ <| .makeVariant ..
  · simp at hparts

theorem articleVariant_follows (hparts : parts.before = [] ∨ parts.before.length + 1 = 2)
    (h : DraftedAt (ArticleMakes slots) parts.toList k d) :
    Follows (Draft.variant k) (fun _ => 1) slots.toList d.events d
      fun ctx => articleVariant ctx slots parts k := by
  obtain ⟨before, last⟩ := parts
  rw [Cell.Parts.toList] at h
  rcases before with _ | ⟨first, _ | ⟨_, _⟩⟩
  · simp only [List.nil_append, draftedAt_cons, draftedAt_nil, ArticleMakes] at h
    obtain ⟨spelling, hspelling, singular, genus, harticle, rfl⟩ := h
    exact .bindLift hspelling <| .bindLift harticle <| .bindForm (singular_mem slots) _ _ <|
      .makeVariant ..
  · simp only [List.cons_append, List.nil_append, draftedAt_cons, draftedAt_nil, ArticleMakes] at h
    obtain ⟨spelling, hspelling, token, htoken, singular, genus, harticle, plural, state, hplural,
      rfl⟩ := h
    exact .bindLift hspelling <| .bindLift harticle <| .bindForm (singular_mem slots) _ _ <|
      .bindLift htoken <| .bindLift hplural <| .bindForm (plural_mem slots) _ _ <| .makeVariant ..
  · simp at hparts

theorem create_follows {style : NounStyle} {cell : List Char}
    (hcell : Text.isBlankText cell = false) {spelled : List (List Char)} {genera : SortedSet String}
    (hread : takeApart style cell = .ok (spelled, genera)) {ds : List Draft}
    (hds : DraftedOf (Makes style slots genera) spelled ds) :
    Follows Draft.lexeme List.length slots.toList (ds.flatMap Draft.events) ds
      fun ctx => Noun.create ctx slots style cell := by
  refine .ifFilled hcell ?_
  cases style with
  | genusSuffix =>
    have hread : Cell.takeTags cell 2 (Cell.takeGenus · Cell.nounGenera) = .ok (spelled, genera) :=
      hread
    exact Follows.takeTags (M := SuffixMakes slots) hread hds
      fun p k d hparts hd => suffixVariant_follows hparts hd
  | articlePrefix =>
    obtain ⟨p, hp, heq⟩ := map_eq_ok_iff.1 hread
    obtain ⟨rfl, -⟩ := Prod.mk.inj heq
    obtain ⟨hlength, hds⟩ := hds
    refine .bindLift hp ?_
    unfold createParts
    rw [← hlength]
    exact .range fun k d hk => articleVariant_follows (Cell.Parts.size_of_ofCell hp) (hds k d hk)

end Noun

namespace Verb

variable {slots : VerbSlots}

theorem infinitiveForms_follows (text : List Char) :
    FollowsDraft slots.toList ((infinitives slots text).map .form) (infinitives slots text)
      fun ctx => infinitiveForms ctx slots text := by
  have hinfinitive : slots.infinitive ∈ slots.toList := List.mem_cons_self
  have hdivided : slots.divided ∈ slots.toList := by simp [VerbSlots.toList]
  unfold infinitiveForms infinitives
  by_cases hbar : text.contains '|'
  · simp only [hbar, ↓reduceIte]
    exact .bindForm hinfinitive _ _ <| .bindForm hdivided _ _ <| .pure rfl fun _ _ => rfl
  · simp only [hbar, Bool.false_eq_true, ↓reduceIte]
    exact .bindForm hinfinitive _ _ <| .pure rfl fun _ _ => rfl

theorem variant_follows {parts : Cell.Parts}
    (hparts : parts.before = [] ∨ parts.before.length + 1 = fullSize) {listed : SortedSet String}
    {k : Nat} {d : Draft} (h : DraftedAt (Makes slots listed) parts.toList k d) :
    Follows (Draft.variant k) (fun _ => 1) slots.toList d.events d
      fun ctx => Verb.variant ctx slots parts listed k := by
  obtain ⟨before, last⟩ := parts
  rw [Cell.Parts.toList] at h
  rcases before with _ | ⟨first, _ | ⟨second, _ | ⟨third, _ | ⟨_, _⟩⟩⟩⟩
  · simp only [List.nil_append, draftedAt_cons, draftedAt_nil, Makes] at h
    obtain ⟨infinitive, hinfinitive, rfl⟩ := h
    refine .bindLift hinfinitive ?_
    rw [Draft.events, ← List.append_nil (List.map ..)]
    exact .bind (infinitiveForms_follows infinitive) <| .makeVariant ..
  · simp [fullSize] at hparts
  · simp [fullSize] at hparts
  · simp only [List.cons_append, List.nil_append, draftedAt_cons, draftedAt_nil, Makes] at h
    obtain ⟨infinitive, hinfinitive, present, hpresent, preterite, hpreterite, participle,
      hparticiple, text, marker, hleading, rfl⟩ := h
    refine .bindLift hinfinitive ?_
    rw [Draft.events, List.map_append]
    refine .bind (infinitiveForms_follows infinitive) <| .bindLift hpresent <|
      .bindForm (by simp [VerbSlots.toList]) _ _ <| .bindLift hpreterite <|
      .bindForm (by simp [VerbSlots.toList]) _ _ <| .bindLift hparticiple ?_
    simp only [hleading]
    exact .bindForm (by simp [VerbSlots.toList]) _ _ <| .makeVariant ..
  · simp [fullSize] at hparts

theorem create_follows {cell : List Char} (hcell : Text.isBlankText cell = false)
    {parts : List (List Char)} {listed : SortedSet String}
    (hread : Cell.takeTags cell fullSize Cell.takeAuxiliaries = .ok (parts, listed))
    {ds : List Draft} (hds : DraftedOf (Makes slots listed) parts ds) :
    Follows Draft.lexeme List.length slots.toList (ds.flatMap Draft.events) ds
      fun ctx => Verb.create ctx slots cell :=
  .ifFilled hcell <| Follows.takeTags (M := Makes slots) hread hds
    fun _ _ _ hparts hd => variant_follows hparts hd

end Verb

/-! ## All grammars -/

namespace Grammar

variable {g : Grammar} {slots : g.Slots}

theorem remarks_of_blank (g : Grammar) (tag : String) {text : List Char}
    (h : Text.isBlankText text) : g.remarks tag text = [] := by
  cases g with
  | multi separator allowMultiWord =>
    have htrim : Text.trim [] = [] := rfl
    rw [remarks, Text.trim_eq_nil_iff.2 h]
    simp [Multi.hasBareParenthesis, Multi.hasInnerBlank, htrim]
  | _ => rfl

theorem drafts_of_blank {text : List Char} (h : Text.isBlankText text) {ds : List Draft} :
    g.Drafts slots text ds ↔ ds = [] := by
  rw [Drafts, if_pos h]

theorem drafts_of_filled {text : List Char} (h : Text.isBlankText text = false) {ds : List Draft} :
    g.Drafts slots text ds ↔
      ∃ parts tags, g.takeApart text = .ok (parts, tags) ∧
        DraftedOf (g.Makes slots tags) parts ds := by
  rw [Drafts, if_neg (by rw [h]; exact Bool.false_ne_true)]

theorem makesAll_iff {text : List Char} (h : Text.isBlankText text = false) {ds : List Draft} :
    g.MakesAll slots text ds ↔ g.Drafts slots text ds ∧ ∀ d ∈ ds, d.IsShort := by
  simp only [MakesAll, drafts_of_filled h, madeOf_iff, ← and_assoc, exists_and_right]

/-- The remarks on a text, and the forms of its variants. -/
def events (g : Grammar) (tag : String) (text : List Char) (ds : List Draft) : List Event :=
  (g.remarks tag text).map .remark ++ ds.flatMap Draft.events

/-- A text is created from with the variants that are drafted, if all forms are short. -/
theorem create_iff (g : Grammar) (slots : g.Slots) (tag : String) (text : List Char) :
    Determined Draft.lexeme List.length
      (fun ds => g.Drafts slots text ds ∧ ∀ d ∈ ds, d.IsShort)
      fun ctx => g.create slots tag ctx text := by
  cases htext : Text.isBlankText text with
  | true =>
    simp only [g.create_blank slots tag _ htext, drafts_of_blank htext]
    refine (Determined.pure (b := []) rfl fun _ _ => rfl).congr fun ds => ?_
    constructor
    · rintro rfl
      exact ⟨rfl, List.forall_mem_nil _⟩
    · exact And.left
  | false => exact (g.create_determined slots tag htext).congr fun ds => makesAll_iff htext

theorem create_follows (tag : String) {text : List Char} {ds : List Draft}
    (h : g.Drafts slots text ds) :
    Follows Draft.lexeme List.length (g.slotList slots) (g.events tag text ds) ds
      fun ctx => g.create slots tag ctx text := by
  rw [events]
  cases htext : Text.isBlankText text with
  | true =>
    obtain rfl := (drafts_of_blank htext).1 h
    simp only [g.remarks_of_blank tag htext, g.create_blank slots tag _ htext]
    exact .pure rfl fun _ _ => rfl
  | false =>
    obtain ⟨parts, tags, hread, hds⟩ := (drafts_of_filled htext).1 h
    cases g with
    | noun style => exact Noun.create_follows htext hread hds
    | verb => exact Verb.create_follows htext hread hds
    | misc =>
      obtain ⟨rfl, -⟩ := Prod.mk.inj (Except.ok.inj hread)
      exact .ifFilled htext (spellings_follows slots id hds)
    | multi separator allowMultiWord =>
      obtain ⟨rfl, -⟩ := Prod.mk.inj (Except.ok.inj hread)
      exact Multi.createPart_follows slots tag separator allowMultiWord htext hds

theorem Drafts.ne_nil {text : List Char} (htext : Text.isBlankText text = false) {ds : List Draft}
    (h : g.Drafts slots text ds) : ds ≠ [] := by
  obtain ⟨parts, tags, hparts, hlength, -⟩ := (drafts_of_filled htext).1 h
  obtain ⟨part, hpart⟩ := List.exists_mem_of_ne_nil _ (parts_ne_nil hparts)
  have hpos : 0 < Cell.alternativeCount part := List.length_pos_iff.2 (Text.pieces_ne_nil _ _)
  rw [← List.length_pos_iff, hlength]
  exact Nat.lt_of_lt_of_le hpos (Cell.alternativeCount_le hpart)

theorem isBlankText_of_mem_filledParts {cell part : List Char} (h : part ∈ g.filledParts cell) :
    Text.isBlankText part = false := by
  simpa using (List.mem_filter.1 h).2

theorem forall₂_makesAll_iff {parts : List (List Char)} {gs : List (List Draft)}
    (hparts : ∀ part ∈ parts, Text.isBlankText part = false) :
    List.Forall₂ (g.MakesAll slots) parts gs ↔
      List.Forall₂ (g.Drafts slots) parts gs ∧ ∀ d ∈ gs.flatten, d.IsShort := by
  induction parts generalizing gs with
  | nil => cases gs <;> simp
  | cons part parts ih =>
    obtain ⟨hpart, hparts⟩ := List.forall_mem_cons.1 hparts
    cases gs with
    | nil => simp
    | cons ds gs =>
      rw [List.forall₂_cons, List.forall₂_cons, ih hparts, makesAll_iff hpart, List.flatten_cons,
        List.forall_mem_append]
      exact and_and_and_comm

theorem createLexemes_iff (g : Grammar) (slots : g.Slots) (tag : String) (cell : List Char) :
    Determined Draft.lexemes (fun gs => gs.flatten.length)
      (fun gs => List.Forall₂ (g.Drafts slots) (g.filledParts cell) gs ∧
        ∀ d ∈ gs.flatten, d.IsShort)
      fun ctx => g.createLexemes slots tag ctx cell :=
  (g.createLexemes_determined slots tag cell).congr fun _ =>
    forall₂_makesAll_iff fun _ => isBlankText_of_mem_filledParts

/-- The remarks and the forms of each lexeme, one lexeme after another. -/
def lexemeEvents (g : Grammar) (tag : String) (parts : List (List Char)) (gs : List (List Draft)) :
    List Event :=
  (parts.zipWith (g.events tag) gs).flatten

/-- A cell that is a lexeme of its own. -/
theorem create_single_follows (tag : String) {cell : List Char} {gs : List (List Draft)}
    (h : List.Forall₂ (g.Drafts slots) ([cell].filter fun part => !Text.isBlankText part) gs) :
    Follows Draft.lexemes (fun gs => gs.flatten.length) (g.slotList slots)
      (g.lexemeEvents tag ([cell].filter fun part => !Text.isBlankText part) gs) gs
      fun ctx => do
        let variants ← g.create slots tag ctx cell
        return if variants.isEmpty then [] else [variants] := by
  cases hcell : Text.isBlankText cell with
  | true =>
    rw [List.filter_cons_of_neg (by simp [hcell]), List.filter_nil] at h ⊢
    obtain rfl := List.forall₂_nil_left_iff.1 h
    simp only [g.create_blank slots tag _ hcell, pure_bind]
    exact .pure rfl fun _ _ => rfl
  | false =>
    rw [List.filter_cons_of_pos (by simp [hcell]), List.filter_nil] at h ⊢
    obtain ⟨ds, _, hds, hnil, rfl⟩ := List.forall₂_cons_left_iff.1 h
    obtain rfl := List.forall₂_nil_left_iff.1 hnil
    have hevents : g.lexemeEvents tag [cell] [ds] = g.events tag cell ds := List.append_nil _
    rw [hevents]
    exact (create_follows tag hds).single (hds.ne_nil hcell)

theorem createLexemes_follows (tag : String) {cell : List Char} {gs : List (List Draft)}
    (h : List.Forall₂ (g.Drafts slots) (g.filledParts cell) gs) :
    Follows Draft.lexemes (fun gs => gs.flatten.length) (g.slotList slots)
      (g.lexemeEvents tag (g.filledParts cell) gs) gs
      fun ctx => g.createLexemes slots tag ctx cell := by
  cases g with
  | noun style => exact create_single_follows tag h
  | verb => exact create_single_follows tag h
  | misc => exact create_single_follows tag h
  | multi separator allowMultiWord =>
    have hfilled : ∀ part ∈ (multi separator allowMultiWord).filledParts cell,
        Text.isBlankText part = false := fun _ => isBlankText_of_mem_filledParts
    rw [filledParts_multi] at h hfilled ⊢
    refine .dropEmpty (.mapM (h.imp fun part ds hds => create_follows tag hds)) fun ds hds => ?_
    obtain ⟨part, hpart, hdrafts⟩ := exists_of_mem_forall₂ h.flip hds
    exact Drafts.ne_nil (hfilled part hpart) hdrafts

end Grammar

/-! ## Long forms -/

/-- A form without the variant that it belongs to. -/
def Form.unbound (f : Form) : Form := { f with variantId := none }

namespace Draft

def formsOf (ds : List Draft) : List Form := ds.flatMap (·.forms)

end Draft

namespace Variant

def formsOf (vs : List Variant) : List Form := vs.flatMap (·.forms)

end Variant

theorem Draft.map_unbound_lexeme (orthographyId first : Int64) (ds : List Draft) :
    (Variant.formsOf (lexeme orthographyId first ds)).map Form.unbound =
      (formsOf ds).map Form.unbound := by
  induction ds using List.reverseRecOn with
  | nil => rfl
  | append_singleton ds d ih =>
    have hd (k : Nat) (id : Int64) :
        (d.variant k orthographyId id).forms.map Form.unbound = d.forms.map Form.unbound := by
      simp only [variant, Variant.create, List.map_map]
      rfl
    simp only [Variant.formsOf, formsOf] at ih ⊢
    rw [lexeme_append, List.flatMap_append, List.flatMap_append, List.map_append, List.map_append,
      ih, List.flatMap_singleton, List.flatMap_singleton, hd]

namespace Creation

variable {slots : List Slot}

theorem firstError?_forms (fs : List Form) :
    firstError? (fs.map .form) = (fs.find? Form.isTooLong).map Form.lengthError := by
  induction fs with
  | nil => rfl
  | cons f fs ih =>
    rw [firstError?, List.map_cons, List.findSome?_cons, List.find?_cons]
    cases hf : f.isTooLong with
    | true =>
      have herror : Event.error? (.form f) = some f.lengthError := if_pos hf
      rw [herror]
      rfl
    | false =>
      have hnone : Event.error? (.form f) = none := if_neg (by simp [hf])
      rw [hnone]
      exact ih

theorem firstError?_remarks (messages : List String) :
    firstError? (messages.map .remark) = none := by
  simp [firstError?, Event.error?]

theorem tell_forms_iff {fs : List Form} {ms : List String} :
    Tell slots (fs.map .form) ms ↔ List.Forall₂ (Form.LongIn slots) (fs.filter Form.isLong) ms := by
  rw [Tell, List.filter_map, List.forall₂_map_left_iff]
  rfl

theorem forall₂_longIn_unbound {fs : List Form} {ms : List String} :
    List.Forall₂ (Form.LongIn slots) ((fs.map Form.unbound).filter Form.isLong) ms ↔
      List.Forall₂ (Form.LongIn slots) (fs.filter Form.isLong) ms := by
  rw [List.filter_map, List.forall₂_map_left_iff]
  rfl

end Creation

namespace Grammar

variable {g : Grammar} {slots : g.Slots}

/-- The warnings about a text and its forms: what is remarked on in the text comes first, and then
there is one for each long form. -/
def Told (g : Grammar) (slots : g.Slots) (tag : String) (text : List Char) (forms : List Form)
    (messages : List String) : Prop :=
  ∃ long, messages = g.remarks tag text ++ long ∧
    List.Forall₂ (Form.LongIn (g.slotList slots)) (forms.filter Form.isLong) long

theorem events_eq (tag : String) (text : List Char) (ds : List Draft) : g.events tag text ds =
    (g.remarks tag text).map .remark ++ (Draft.formsOf ds).map .form := by
  rw [events, Draft.formsOf, List.map_flatMap]
  rfl

theorem firstError?_events (tag : String) (text : List Char) (ds : List Draft) :
    firstError? (g.events tag text ds) =
      ((Draft.formsOf ds).find? Form.isTooLong).map Form.lengthError := by
  rw [events_eq, firstError?_append, firstError?_remarks, Option.none_or, firstError?_forms]

theorem told_of_tell {tag : String} {text : List Char} {ds : List Draft} {messages : List String}
    (h : Tell (g.slotList slots) (g.events tag text ds) messages) (orthographyId first : Int64) :
    g.Told slots tag text (Variant.formsOf (Draft.lexeme orthographyId first ds)) messages := by
  rw [events_eq] at h
  obtain ⟨ms, long, rfl, hms, hlong⟩ := tell_append_iff.1 h
  rw [tell_remarks_iff.1 hms]
  refine ⟨long, rfl, ?_⟩
  rw [← forall₂_longIn_unbound, Draft.map_unbound_lexeme, forall₂_longIn_unbound]
  exact tell_forms_iff.1 hlong

theorem forall_isShort_iff {ds : List Draft} :
    (∀ d ∈ ds, d.IsShort) ↔ ∀ f ∈ Draft.formsOf ds, f.text.length ≤ maxFormLength := by
  simp only [Draft.formsOf, List.forall_mem_flatMap, Draft.IsShort]

/-- The forms of all lexemes. -/
theorem firstError?_lexemeEvents (tag : String) {parts : List (List Char)}
    {gs : List (List Draft)} (h : List.Forall₂ (g.Drafts slots) parts gs) :
    firstError? (g.lexemeEvents tag parts gs) =
      ((Draft.formsOf gs.flatten).find? Form.isTooLong).map Form.lengthError := by
  induction h with
  | nil => rfl
  | cons _ _ ih =>
    rw [lexemeEvents] at ih ⊢
    rw [List.zipWith_cons_cons, List.flatten_cons, firstError?_append, firstError?_events, ih,
      List.flatten_cons, Draft.formsOf, Draft.formsOf, Draft.formsOf, List.flatMap_append,
      List.find?_append, Option.map_or]

/-- The warnings about the lexemes of some parts, one lexeme after another. -/
def ToldAll (g : Grammar) (slots : g.Slots) (tag : String) (parts : List (List Char))
    (lexemes : List (List Variant)) (messages : List String) : Prop :=
  lexemes.length = parts.length ∧ ∃ told, messages = told.flatten ∧
    List.Forall₂ (fun lexeme ms => g.Told slots tag lexeme.1 (Variant.formsOf lexeme.2) ms)
      (parts.zip lexemes) told

theorem toldAll_of_tell {tag : String} {parts : List (List Char)} {gs : List (List Draft)}
    (hgs : List.Forall₂ (g.Drafts slots) parts gs) {messages : List String}
    (h : Tell (g.slotList slots) (g.lexemeEvents tag parts gs) messages)
    (orthographyId first : Int64) :
    g.ToldAll slots tag parts (Draft.lexemes orthographyId first gs) messages := by
  induction hgs generalizing messages first with
  | nil => exact ⟨rfl, [], List.forall₂_nil_left_iff.1 h, .nil⟩
  | @cons part ds parts gs _ _ ih =>
    obtain ⟨ms, rest, rfl, hms, hrest⟩ := tell_append_iff.1 h
    obtain ⟨hlength, told, rfl, htold⟩ := ih hrest (first - Int64.ofNat ds.length)
    refine ⟨congrArg (· + 1) hlength, ms :: told, rfl, ?_⟩
    exact .cons (told_of_tell hms orthographyId first) htold

end Grammar

/-! ## All creations -/

/-- What a creation comes to whose forms may have some length and no more. It succeeds if it would
do so without that limit, and no form exceeds it; the first form that does so is what it fails
with. -/
structure Creation.Limited {β γ : Type} (drafts : β → Prop) (forms : β → List Form)
    (created : γ → List Form) (told : γ → List String → Prop) (messages : List String)
    (result : Except CellError γ) : Prop where
  ok_iff : (∃ d, result = .ok d) ↔ ∃ b, drafts b ∧ ∀ f ∈ forms b, f.text.length ≤ maxFormLength
  short : ∀ d, result = .ok d → ∀ f ∈ created d, f.text.length ≤ maxFormLength
  told : ∀ d, result = .ok d → told d messages
  error : ∀ b f, drafts b → (forms b).find? Form.isTooLong = some f →
    result = .error (.formTooLong f.text f.text.length maxFormLength)

theorem Creation.exists_limited {β γ : Type} {make : Int64 → Int64 → β → γ} {size : β → Nat}
    {slots : List Slot} {c : Context → Creation γ} {drafts : β → Prop} {forms : β → List Form}
    {created : γ → List Form} {told : γ → List String → Prop} {events : β → List Event}
    (hdetermined : Determined make size
      (fun b => drafts b ∧ ∀ f ∈ forms b, f.text.length ≤ maxFormLength) c)
    (hfollows : ∀ b, drafts b → Follows make size slots (events b) b c)
    (hevents : ∀ b, drafts b →
      firstError? (events b) = ((forms b).find? Form.isTooLong).map Form.lengthError)
    (hcreated : ∀ b orthographyId first, (∀ f ∈ forms b, f.text.length ≤ maxFormLength) →
      ∀ f ∈ created (make orthographyId first b), f.text.length ≤ maxFormLength)
    (htold : ∀ b messages orthographyId first, drafts b → Tell slots (events b) messages →
      told (make orthographyId first b) messages)
    (ctx : Context) (ledger : Ledger) :
    ∃ messages, (c ctx ledger).2.diagnostics = (ledger.warn ctx messages).diagnostics ∧
      Limited drafts forms created told messages (c ctx ledger).1 := by
  obtain ⟨messages, hadded, hok, herror⟩ :=
    exists_messages hdetermined (fun _ => And.left) hfollows ctx ledger
  refine ⟨messages, hadded, ?_, fun d hd => ?_, fun d hd => ?_, fun b f hb hf => ?_⟩
  · constructor
    · rintro ⟨d, hd⟩
      obtain ⟨b, hb, -⟩ := hdetermined.apply_eq_ok_iff.1 ⟨_, Prod.ext hd rfl⟩
      exact ⟨b, hb⟩
    · rintro ⟨b, hb⟩
      obtain ⟨after, hrun⟩ := hdetermined.apply_eq_ok_iff.2 ⟨b, hb, rfl⟩
      exact ⟨_, congrArg Prod.fst hrun⟩
  · obtain ⟨b, hb, rfl⟩ := hdetermined.apply_eq_ok_iff.1 ⟨_, Prod.ext hd rfl⟩
    exact hcreated b _ _ hb.2
  · obtain ⟨b, hb, rfl, -, htell⟩ := hok d hd
    exact htold b messages _ _ hb htell
  · refine herror b _ hb ?_
    rw [hevents b hb, hf]
    rfl

theorem Draft.length_le_of_mem_lexeme {ds : List Draft}
    (h : ∀ f ∈ formsOf ds, f.text.length ≤ maxFormLength) (orthographyId first : Int64) :
    ∀ f ∈ Variant.formsOf (lexeme orthographyId first ds), f.text.length ≤ maxFormLength := by
  rw [Variant.formsOf, List.forall_mem_flatMap]
  rw [formsOf, List.forall_mem_flatMap] at h
  exact (forall_form_lexeme (P := fun text _ => text.length ≤ maxFormLength)).2 h

theorem Draft.length_le_of_mem_lexemes {gs : List (List Draft)}
    (h : ∀ f ∈ formsOf gs.flatten, f.text.length ≤ maxFormLength) (orthographyId first : Int64) :
    ∀ f ∈ Variant.formsOf (lexemes orthographyId first gs).flatten,
      f.text.length ≤ maxFormLength := by
  rw [Variant.formsOf, List.forall_mem_flatMap, List.forall_mem_flatten]
  rw [formsOf, List.forall_mem_flatMap, List.forall_mem_flatten] at h
  exact (forall_form_lexemes (P := fun text _ => text.length ≤ maxFormLength)).2 h

namespace Grammar

theorem create_limited (g : Grammar) (slots : g.Slots) (tag : String) (text : List Char)
    (ctx : Context) (ledger : Ledger) :
    ∃ messages, (g.create slots tag ctx text ledger).2.diagnostics =
        (ledger.warn ctx messages).diagnostics ∧
      Limited (g.Drafts slots text) Draft.formsOf Variant.formsOf
        (fun vs => g.Told slots tag text (Variant.formsOf vs)) messages
        (g.create slots tag ctx text ledger).1 := by
  have hdetermined := create_iff g slots tag text
  simp only [forall_isShort_iff] at hdetermined
  exact exists_limited hdetermined (fun ds hds => create_follows tag hds)
    (fun ds _ => firstError?_events tag text ds)
    (fun ds orthographyId first hshort => Draft.length_le_of_mem_lexeme hshort orthographyId first)
    (fun ds messages orthographyId first _ htell => told_of_tell htell orthographyId first)
    ctx ledger

theorem createLexemes_limited (g : Grammar) (slots : g.Slots) (tag : String) (cell : List Char)
    (ctx : Context) (ledger : Ledger) :
    ∃ messages, (g.createLexemes slots tag ctx cell ledger).2.diagnostics =
        (ledger.warn ctx messages).diagnostics ∧
      Limited (List.Forall₂ (g.Drafts slots) (g.filledParts cell))
        (fun gs => Draft.formsOf gs.flatten) (fun lexemes => Variant.formsOf lexemes.flatten)
        (g.ToldAll slots tag (g.filledParts cell)) messages
        (g.createLexemes slots tag ctx cell ledger).1 := by
  have hdetermined := createLexemes_iff g slots tag cell
  simp only [forall_isShort_iff] at hdetermined
  exact exists_limited hdetermined (fun gs hgs => createLexemes_follows tag hgs)
    (fun gs hgs => firstError?_lexemeEvents tag hgs)
    (fun gs orthographyId first hshort => Draft.length_le_of_mem_lexemes hshort orthographyId first)
    (fun gs messages orthographyId first hgs htell => toldAll_of_tell hgs htell orthographyId first)
    ctx ledger

end Grammar

/-- Creation adds warnings with the name of the creator and its place in the source, and nothing
else, whether it succeeds or not. If it succeeds, there is one for each long form, in order, behind
what is remarked on in the text of a lexeme. No form is too long: the first one that would be is
what a creation fails with that has nothing else against it. -/
theorem Creator.long_forms {c : Creator} {slots : c.grammar.Slots} (hslots : c.slots = some slots)
    (label : String) (orthographyId : Int64) (row : Row) :
    (∀ text, ∃ creation, c.createText label orthographyId row text = .ok creation ∧
      ∀ ledger, ∃ messages, (creation ledger).2.diagnostics = ledger.diagnostics ++
          messages.map (⟨.warning, ·, label, row.line, some c.column⟩) ∧
        Limited (c.grammar.Drafts slots text) Draft.formsOf Variant.formsOf
          (fun vs => c.grammar.Told slots c.tag text (Variant.formsOf vs)) messages
          (creation ledger).1) ∧
    ∃ creation, c.createLexemes label orthographyId row = .ok creation ∧
      ∀ ledger, ∃ messages, (creation ledger).2.diagnostics = ledger.diagnostics ++
          messages.map (⟨.warning, ·, label, row.line, some c.column⟩) ∧
        Limited (List.Forall₂ (c.grammar.Drafts slots) (c.grammar.filledParts (c.cell row)))
          (fun gs => Draft.formsOf gs.flatten) (fun lexemes => Variant.formsOf lexemes.flatten)
          (c.grammar.ToldAll slots c.tag (c.grammar.filledParts (c.cell row))) messages
          (creation ledger).1 := by
  refine ⟨fun text => ⟨_, by rw [createText, hslots], fun ledger => ?_⟩,
    _, by rw [createLexemes, hslots], fun ledger => ?_⟩
  · exact c.grammar.create_limited slots c.tag text (c.context label orthographyId row) ledger
  · exact c.grammar.createLexemes_limited slots c.tag (c.cell row)
      (c.context label orthographyId row) ledger

/-- A creator of several lexemes, none of them with a blank. -/
def Creator.sampleMulti : Creator := ⟨"adj", 0, .multi ';' false, some ⟨1, "positive", 0⟩⟩

/-- A lexeme with one warning of each kind, and a second spelling that is too long. -/
theorem Creator.long_forms_multi :
    (∃ creation, ∃ messages : List String, sampleMulti.createText "a" 1 ⟨2, []⟩
        (List.replicate 51 'x' ++ " (y)".toList) = .ok creation ∧
      (creation ⟨(-1 : Int64), []⟩).2.diagnostics =
        messages.map (⟨.warning, ·, "a", 2, some 0⟩) ∧
      messages.length = 3 ∧ (creation ⟨(-1 : Int64), []⟩).1.toOption.isSome) ∧
    ∃ creation, sampleMulti.createText "a" 1 ⟨2, []⟩
        ("x ~ ".toList ++ List.replicate 101 'y') = .ok creation ∧
      (creation ⟨(-1 : Int64), []⟩).1 =
        .error (.formTooLong (String.ofList (List.replicate 101 'y')) 101 100) := by
  have h := (@long_forms sampleMulti ⟨1, "positive", 0⟩ rfl "a" 1 ⟨2, []⟩).1
  constructor
  · obtain ⟨creation, hcreation, hlimited⟩ := h (List.replicate 51 'x' ++ " (y)".toList)
    obtain ⟨messages, hadded, -⟩ := hlimited ⟨(-1 : Int64), []⟩
    have hrun : (sampleMulti.createText "a" 1 ⟨2, []⟩
        (List.replicate 51 'x' ++ " (y)".toList)).toOption.map (fun creation =>
          ((creation ⟨(-1 : Int64), []⟩).2.diagnostics.length,
            (creation ⟨(-1 : Int64), []⟩).1.toOption.isSome)) = some (3, true) := by
      decide +kernel
    rw [hcreation, Except.toOption, Option.map_some] at hrun
    obtain ⟨hlength, hsome⟩ := Prod.mk.inj (Option.some.inj hrun)
    rw [hadded] at hlength
    exact ⟨creation, messages, hcreation, hadded, by simpa using hlength, hsome⟩
  · obtain ⟨creation, hcreation, hlimited⟩ := h ("x ~ ".toList ++ List.replicate 101 'y')
    obtain ⟨messages, -, hmessages⟩ := hlimited ⟨(-1 : Int64), []⟩
    have hdrafts : sampleMulti.grammar.Drafts (⟨1, "positive", 0⟩ : Slot)
        ("x ~ ".toList ++ List.replicate 101 'y')
        [⟨[Slot.form ⟨1, "positive", 0⟩ ['x'] .typed], ∅, none⟩,
          ⟨[Slot.form ⟨1, "positive", 0⟩ (List.replicate 101 'y') .typed], ∅, none⟩] := by
      refine (Grammar.drafts_of_filled (by decide +kernel)).2
        ⟨_, _, rfl, by decide +kernel, fun k d hk => ?_⟩
      rcases k with _ | _ | k
      · obtain rfl := Option.some.inj hk
        exact ⟨[['x']], .cons (by decide +kernel) .nil, rfl⟩
      · obtain rfl := Option.some.inj hk
        have hunescape : Multi.unescape (List.replicate 101 'y') = List.replicate 101 'y' := by
          decide +kernel
        refine ⟨[List.replicate 101 'y'], .cons (by decide +kernel) .nil, ?_⟩
        show _ = (⟨[Slot.form _ (Multi.unescape (List.replicate 101 'y')) .typed], ∅, none⟩ : Draft)
        rw [hunescape]
      · cases hk
    have herror := hmessages.error _ (Slot.form ⟨1, "positive", 0⟩ (List.replicate 101 'y') .typed)
      hdrafts (by decide +kernel)
    rw [Slot.length_form_text, List.length_replicate] at herror
    exact ⟨creation, hcreation, herror⟩

end Wordbook
