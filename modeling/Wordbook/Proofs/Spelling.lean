import Wordbook.Creator
import Wordbook.Proofs.Alternative
import Wordbook.Proofs.Cell
import Wordbook.Proofs.Determined

/-!
# What variants are made of

A grammar takes a cell apart into its parts and the tags behind them. The variant
at an index is made of one spelling of each part, the one that is written there.

* `Grammar.takeApart`: the parts and the tags of a cell;
* `Grammar.Makes`: what a variant with given spellings is made of;
* `Grammar.create_determined`: a creation succeeds with the variants that are so
  made at all indices, and fails if one of them cannot be made.
-/

namespace Wordbook

open Creation

/-- A form that belongs to no variant yet. -/
def Slot.form (slot : Slot) (text : List Char) (state : FormState) : Form :=
  ⟨none, slot.id, String.ofList text, state⟩

@[simp] theorem Slot.length_form_text (slot : Slot) (text : List Char) (state : FormState) :
    (slot.form text state).text.length = text.length :=
  String.length_ofList ..

/-- No form of a variant is too long. -/
def Draft.IsShort (d : Draft) : Prop := ∀ f ∈ d.forms, f.text.length ≤ maxFormLength

/-- What is made of the spellings of some parts at an index. -/
def MadeAt (makes : List (List Char) → Draft → Prop) (parts : List (List Char)) (k : Nat)
    (d : Draft) : Prop :=
  ∃ spellings, List.Forall₂ (fun part text => Cell.alternative part k = .ok text) parts spellings ∧
    makes spellings d ∧ d.IsShort

/-- What the variants at all indices of some parts are made of. -/
def MadeOf (makes : List (List Char) → Draft → Prop) (parts : List (List Char))
    (ds : List Draft) : Prop :=
  ds.length = Cell.maxAlternatives parts ∧ ∀ k d, ds[k]? = some d → MadeAt makes parts k d

section

variable {makes : List (List Char) → Draft → Prop} {parts : List (List Char)} {k : Nat} {d : Draft}

theorem madeAt_nil : MadeAt makes [] k d ↔ makes [] d ∧ d.IsShort := by
  simp [MadeAt]

theorem madeAt_cons {part : List Char} :
    MadeAt makes (part :: parts) k d ↔
      ∃ text, Cell.alternative part k = .ok text ∧
        MadeAt (fun ts => makes (text :: ts)) parts k d := by
  constructor
  · rintro ⟨_, hspellings, hmakes⟩
    obtain ⟨text, ts, htext, hts, rfl⟩ := List.forall₂_cons_left_iff.1 hspellings
    exact ⟨text, htext, ts, hts, hmakes⟩
  · rintro ⟨text, htext, ts, hts, hmakes⟩
    exact ⟨text :: ts, .cons htext hts, hmakes⟩

end

namespace Creation

/-- A form is created and then used, unless it is too long. -/
theorem Determined.bindForm {β γ : Type} {make : Int64 → Int64 → β → γ} {size : β → Nat}
    {P : β → Prop} {f : Context → Form → Creation γ} (slot : Slot) (text : List Char)
    (state : FormState) (h : Determined make size P fun ctx => f ctx (slot.form text state)) :
    Determined make size (fun b => text.length ≤ maxFormLength ∧ P b)
      fun ctx => makeForm ctx slot text state >>= f ctx := by
  refine (Determined.bind (Q := fun _ => P) (.makeForm slot text state) ?_).congr fun b => ?_
  · rintro _ ⟨rfl, -⟩
    exact h
  · simp

/-- A blank cell has no part. -/
theorem Determined.ifFilled {P : List Draft → Prop} {cell : List Char}
    {c : Context → Creation (List Variant)} (hcell : Text.isBlankText cell = false)
    (h : Determined Draft.lexeme List.length P c) :
    Determined Draft.lexeme List.length P (fun ctx => do
      if Text.isBlankText cell then return []
      c ctx) := by
  simpa [hcell] using h

/-- A warning changes nothing of what is created. -/
theorem Determined.ifWarn {β γ : Type} {make : Int64 → Int64 → β → γ} {size : β → Nat}
    {P : β → Prop} {c : Context → Creation γ} (h : Determined make size P c) (suspicious : Bool)
    (message : String) :
    Determined make size P (fun ctx => do
      if suspicious then warn ctx message
      c ctx) := by
  cases suspicious with
  | false => simpa using h
  | true => simpa using Determined.bind (DeterminedDraft.warn message) fun _ _ => h

end Creation

/-- The single form of a variant whose spelling is edited. -/
def SpellingMakes (base : Slot) (edit : List Char → List Char) (spellings : List (List Char))
    (d : Draft) : Prop :=
  match spellings with
  | [text] => d = ⟨[base.form (edit text) .typed], ∅, none⟩
  | _ => False

theorem spellings_determined (base : Slot) (edit : List Char → List Char) (text : List Char) :
    Determined Draft.lexeme List.length (MadeOf (SpellingMakes base edit) [text])
      fun ctx => spellings ctx base text edit := by
  have hcount : Cell.alternativeCount text = Cell.maxAlternatives [text] := (Nat.zero_max _).symm
  unfold MadeOf
  rw [← hcount]
  refine .range (P := MadeAt (SpellingMakes base edit) [text]) (fun k => ?_) _
  refine (Determined.bind (.lift _) fun _ _ => .bindForm _ _ _ (.makeVariant ..)).congr fun d => ?_
  simp only [madeAt_cons, madeAt_nil, SpellingMakes]
  constructor
  · rintro ⟨spelling, hspelling, hlength, rfl⟩
    exact ⟨spelling, hspelling, rfl, by simpa [Draft.IsShort] using hlength⟩
  · rintro ⟨spelling, hspelling, rfl, hshort⟩
    exact ⟨spelling, hspelling, by simpa [Draft.IsShort] using hshort, rfl⟩

theorem Misc.create_determined (base : Slot) {cell : List Char}
    (hcell : Text.isBlankText cell = false) :
    Determined Draft.lexeme List.length (MadeOf (SpellingMakes base id) [Text.trim cell])
      fun ctx => Misc.create ctx base cell :=
  .ifFilled hcell (spellings_determined base id _)

theorem Multi.createPart_determined (base : Slot) (tag : String) (allowMultiWord : Bool)
    {part : List Char} (hpart : Text.isBlankText part = false) :
    Determined Draft.lexeme List.length (MadeOf (SpellingMakes base unescape) [Text.trim part])
      fun ctx => createPart ctx base tag allowMultiWord part :=
  .ifFilled hpart <| .ifWarn (.ifWarn (spellings_determined base unescape _) _ _) _ _

theorem Cell.Parts.size_of_ofCell {cell : List Char} {expected : Nat} {parts : Cell.Parts}
    (h : Cell.Parts.ofCell cell expected = .ok parts) :
    parts.before = [] ∨ parts.before.length + 1 = expected := by
  unfold Cell.Parts.ofCell at h
  dsimp only at h
  split at h
  · split at h
    · rename_i hsize
      obtain rfl := Except.ok.inj h
      have hpos := List.length_pos_iff.2
        (Text.pieces_ne_nil ',' (Cell.Parts.splitBlock (Text.trim cell)).1)
      rw [List.length_map] at hsize
      right
      simp only [List.length_dropLast, List.length_map]
      omega
    · nomatch h
  · obtain rfl := Except.ok.inj h
    exact .inl rfl

/-- The parts of a cell without the tags behind them, and those tags. -/
def Cell.takeTags (cell : List Char) (expected : Nat)
    (take : List Char → Except CellError (List Char × SortedSet String)) :
    Except CellError (List (List Char) × SortedSet String) := do
  let parts ← Cell.Parts.ofCell cell expected
  let (last, tags) ← take parts.last
  return (parts.before ++ [last], tags)

theorem Cell.takeTags_ne_nil {cell : List Char} {expected : Nat}
    {take : List Char → Except CellError (List Char × SortedSet String)} {parts : List (List Char)}
    {tags : SortedSet String} (h : takeTags cell expected take = .ok (parts, tags)) :
    parts ≠ [] := by
  obtain ⟨p, -, h⟩ := bind_eq_ok_iff.1 h
  obtain ⟨⟨last, tags'⟩, -, heq⟩ := bind_eq_ok_iff.1 h
  obtain ⟨rfl, -⟩ := Prod.mk.inj (Except.ok.inj heq)
  exact List.concat_ne_nil _ _

/-- The variants of the parts of a cell, made with the tags behind them. -/
theorem Creation.Determined.takeTags {expected : Nat}
    {M : SortedSet String → List (List Char) → Draft → Prop}
    {step : Context → Cell.Parts → SortedSet String → Nat → Creation Variant}
    (h : ∀ (parts : Cell.Parts) (tags : SortedSet String) (k : Nat),
      parts.before = [] ∨ parts.before.length + 1 = expected →
        Determined (Draft.variant k) (fun _ => 1) (MadeAt (M tags) parts.toList k)
          fun ctx => step ctx parts tags k)
    (cell : List Char) (take : List Char → Except CellError (List Char × SortedSet String)) :
    Determined Draft.lexeme List.length
      (fun ds => ∃ parts tags, Cell.takeTags cell expected take = .ok (parts, tags) ∧
        MadeOf (M tags) parts ds)
      (fun ctx => do
        let parts ← Cell.Parts.ofCell cell expected
        let (last, tags) ← take parts.last
        let parts := { parts with last := last }
        (List.range (Cell.maxAlternatives parts.toList)).mapM (step ctx parts tags)) := by
  refine (Determined.bind (.lift _) fun parts hparts => .bind (.lift _) fun last _ =>
    have hsize := Cell.Parts.size_of_ofCell hparts
    .range (P := MadeAt (M last.2) (parts.before ++ [last.1]))
      (fun k => h { parts with last := last.1 } last.2 k hsize) _).congr fun ds => ?_
  simp only [Cell.takeTags, bind_eq_ok_iff]
  constructor
  · rintro ⟨parts, hparts, ⟨last, tags⟩, hlast, hds⟩
    exact ⟨_, tags, ⟨parts, hparts, (last, tags), hlast, rfl⟩, hds⟩
  · rintro ⟨_, _, ⟨parts, hparts, ⟨last, tags⟩, hlast, heq⟩, hds⟩
    obtain ⟨rfl, rfl⟩ := Prod.mk.inj (Except.ok.inj heq)
    exact ⟨parts, hparts, (last, tags), hlast, hds⟩

/-! ## Nouns -/

namespace Noun

/-- A noun with its genus behind the cell. -/
def SuffixMakes (slots : NounSlots) (genera : SortedSet String) (spellings : List (List Char))
    (d : Draft) : Prop :=
  match spellings with
  | [singular] => d = ⟨[slots.singular.form singular .typed], .ofTags generaProperty genera, none⟩
  | [singular, plural] =>
    d = ⟨[slots.singular.form singular .typed, slots.plural.form plural .typed],
      .ofTags generaProperty genera, none⟩
  | _ => False

/-- A noun with an article before its singular. -/
def ArticleMakes (slots : NounSlots) (spellings : List (List Char)) (d : Draft) : Prop :=
  match spellings with
  | [spelling] =>
    ∃ singular genus, Cell.takeArticle spelling = .ok (singular, genus) ∧
      d = ⟨[slots.singular.form singular .typed], .ofTags generaProperty (.singleton genus), none⟩
  | [spelling, token] =>
    ∃ singular genus, Cell.takeArticle spelling = .ok (singular, genus) ∧
      ∃ plural state, expandPlural token singular = .ok (plural, state) ∧
        d = ⟨[slots.singular.form singular .typed, slots.plural.form plural state],
          .ofTags generaProperty (.singleton genus), none⟩
  | _ => False

/-- The parts of a noun cell, without its genus if that is written behind them. -/
def takeApart (style : NounStyle) (cell : List Char) :
    Except CellError (List (List Char) × SortedSet String) :=
  match style with
  | .genusSuffix => Cell.takeTags cell 2 fun last => Cell.takeGenus last Cell.nounGenera
  | .articlePrefix => (Cell.Parts.ofCell cell 2).map fun parts => (parts.toList, ∅)

/-- What a variant of a noun is made of. -/
def Makes (style : NounStyle) (slots : NounSlots) (genera : SortedSet String)
    (spellings : List (List Char)) (d : Draft) : Prop :=
  match style with
  | .genusSuffix => SuffixMakes slots genera spellings d
  | .articlePrefix => ArticleMakes slots spellings d

theorem suffixVariant_determined (slots : NounSlots) (parts : Cell.Parts)
    (hparts : parts.before = [] ∨ parts.before.length + 1 = 2) (genera : SortedSet String)
    (k : Nat) :
    Determined (Draft.variant k) (fun _ => 1) (MadeAt (SuffixMakes slots genera) parts.toList k)
      fun ctx => suffixVariant ctx slots parts genera k := by
  obtain ⟨before, last⟩ := parts
  unfold suffixVariant Cell.Parts.toList
  rcases before with _ | ⟨first, _ | ⟨_, _⟩⟩
  · refine (Determined.bind (.lift _) fun _ _ => .bindForm _ _ _ (.makeVariant ..)).congr
      fun d => ?_
    simp only [List.nil_append, madeAt_cons, madeAt_nil, SuffixMakes]
    constructor
    · rintro ⟨singular, hsingular, hlength, rfl⟩
      exact ⟨singular, hsingular, rfl, by simpa [Draft.IsShort] using hlength⟩
    · rintro ⟨singular, hsingular, rfl, hshort⟩
      exact ⟨singular, hsingular, by simpa [Draft.IsShort] using hshort, rfl⟩
  · refine (Determined.bind (.lift _) fun _ _ => .bindForm _ _ _ <| .bind (.lift _) fun _ _ =>
      .bindForm _ _ _ (.makeVariant ..)).congr fun d => ?_
    simp only [List.cons_append, List.nil_append, madeAt_cons, madeAt_nil, SuffixMakes]
    constructor
    · rintro ⟨singular, hsingular, hlength, plural, hplural, hlength', rfl⟩
      exact ⟨singular, hsingular, plural, hplural, rfl, by simp [Draft.IsShort, hlength, hlength']⟩
    · rintro ⟨singular, hsingular, plural, hplural, rfl, hshort⟩
      obtain ⟨hlength, hlength'⟩ : singular.length ≤ _ ∧ plural.length ≤ _ := by
        simpa [Draft.IsShort] using hshort
      exact ⟨singular, hsingular, hlength, plural, hplural, hlength', rfl⟩
  · simp at hparts

theorem articleVariant_determined (slots : NounSlots) {parts : Cell.Parts}
    (hparts : parts.before = [] ∨ parts.before.length + 1 = 2) (k : Nat) :
    Determined (Draft.variant k) (fun _ => 1) (MadeAt (ArticleMakes slots) parts.toList k)
      fun ctx => articleVariant ctx slots parts k := by
  obtain ⟨before, last⟩ := parts
  unfold articleVariant Cell.Parts.toList
  rcases before with _ | ⟨first, _ | ⟨_, _⟩⟩
  · refine (Determined.bind (.lift _) fun _ _ => .bind (.lift _) fun _ _ =>
      .bindForm _ _ _ (.makeVariant ..)).congr fun d => ?_
    simp only [List.nil_append, madeAt_cons, madeAt_nil, ArticleMakes]
    constructor
    · rintro ⟨spelling, hspelling, ⟨singular, genus⟩, harticle, hlength, rfl⟩
      exact ⟨spelling, hspelling, ⟨singular, genus, harticle, rfl⟩,
        by simpa [Draft.IsShort] using hlength⟩
    · rintro ⟨spelling, hspelling, ⟨singular, genus, harticle, rfl⟩, hshort⟩
      exact ⟨spelling, hspelling, (singular, genus), harticle,
        by simpa [Draft.IsShort] using hshort, rfl⟩
  · refine (Determined.bind (.lift _) fun _ _ => .bind (.lift _) fun _ _ =>
      .bindForm _ _ _ <| .bind (.lift _) fun _ _ => .bind (.lift _) fun _ _ =>
      .bindForm _ _ _ (.makeVariant ..)).congr fun d => ?_
    simp only [List.cons_append, List.nil_append, madeAt_cons, madeAt_nil, ArticleMakes]
    constructor
    · rintro ⟨spelling, hspelling, ⟨singular, genus⟩, harticle, hlength, token, htoken,
        ⟨plural, state⟩, hplural, hlength', rfl⟩
      exact ⟨spelling, hspelling, token, htoken,
        ⟨singular, genus, harticle, plural, state, hplural, rfl⟩,
        by simp [Draft.IsShort, hlength, hlength']⟩
    · rintro ⟨spelling, hspelling, token, htoken,
        ⟨singular, genus, harticle, plural, state, hplural, rfl⟩, hshort⟩
      obtain ⟨hlength, hlength'⟩ : singular.length ≤ _ ∧ plural.length ≤ _ := by
        simpa [Draft.IsShort] using hshort
      exact ⟨spelling, hspelling, (singular, genus), harticle, hlength, token, htoken,
        (plural, state), hplural, hlength', rfl⟩
  · simp at hparts

theorem create_determined (slots : NounSlots) (style : NounStyle) {cell : List Char}
    (hcell : Text.isBlankText cell = false) :
    Determined Draft.lexeme List.length
      (fun ds => ∃ parts genera, takeApart style cell = .ok (parts, genera) ∧
        MadeOf (Makes style slots genera) parts ds)
      fun ctx => Noun.create ctx slots style cell := by
  refine .ifFilled hcell ?_
  cases style with
  | genusSuffix =>
    exact Determined.takeTags (M := SuffixMakes slots)
      (fun parts genera k hparts => suffixVariant_determined slots parts hparts genera k) cell
      (Cell.takeGenus · Cell.nounGenera)
  | articlePrefix =>
    refine (Determined.bind (.lift _) fun parts hparts =>
      .range (P := MadeAt (ArticleMakes slots) parts.toList)
        (articleVariant_determined slots (Cell.Parts.size_of_ofCell hparts)) _).congr fun ds => ?_
    simp only [takeApart, map_eq_ok_iff]
    constructor
    · rintro ⟨parts, hparts, hds⟩
      exact ⟨_, _, ⟨parts, hparts, rfl⟩, hds⟩
    · rintro ⟨_, _, ⟨parts, hparts, heq⟩, hds⟩
      obtain ⟨rfl, rfl⟩ := Prod.mk.inj heq
      exact ⟨parts, hparts, hds⟩

end Noun

/-! ## Verbs -/

namespace Verb

/-- The infinitive as it is written, and without its bars if it has some. -/
def infinitives (slots : VerbSlots) (text : List Char) : List Form :=
  if text.contains '|' then
    [slots.infinitive.form (text.filter (· != '|')) .generated, slots.divided.form text .typed]
  else [slots.infinitive.form text .typed]

/-- The auxiliaries behind a cell, and the one before a participle. -/
def allAuxiliaries (listed : SortedSet String) (marker : Option String) : SortedSet String :=
  match marker with
  | some verb => listed.insert verb
  | none => listed

/-- A verb with some auxiliaries behind the cell. -/
def Makes (slots : VerbSlots) (listed : SortedSet String) (spellings : List (List Char))
    (d : Draft) : Prop :=
  match spellings with
  | [infinitive] => d = ⟨infinitives slots infinitive, .ofTags auxiliariesProperty listed, none⟩
  | [infinitive, present, preterite, participle] =>
    ∃ text marker, Cell.takeLeadingAuxiliary participle = (text, marker) ∧
      d = ⟨infinitives slots infinitive ++ [slots.present.form present .typed,
        slots.preterite.form preterite .typed, slots.participle.form text .typed],
        .ofTags auxiliariesProperty (allAuxiliaries listed marker), none⟩
  | _ => False

theorem infinitiveForms_determined (slots : VerbSlots) (text : List Char) :
    DeterminedDraft (fun forms => forms = infinitives slots text ∧
        ∀ f ∈ infinitives slots text, f.text.length ≤ maxFormLength)
      fun ctx => infinitiveForms ctx slots text := by
  unfold infinitiveForms infinitives
  by_cases hbar : text.contains '|'
  · simp only [hbar, ↓reduceIte]
    refine (Determined.bindForm _ _ _ <| .bindForm _ _ _ <| DeterminedDraft.pure
      [slots.infinitive.form (text.filter (· != '|')) .generated,
        slots.divided.form text .typed]).congr fun forms => ?_
    rw [List.forall_mem_cons, List.forall_mem_singleton, Slot.length_form_text,
      Slot.length_form_text, ← and_assoc, and_comm]
  · simp only [hbar, Bool.false_eq_true, ↓reduceIte]
    refine (Determined.bindForm _ _ _ <| DeterminedDraft.pure
      [slots.infinitive.form text .typed]).congr fun forms => ?_
    rw [List.forall_mem_singleton, Slot.length_form_text, and_comm]

theorem variant_determined (slots : VerbSlots) (parts : Cell.Parts)
    (hparts : parts.before = [] ∨ parts.before.length + 1 = fullSize) (listed : SortedSet String)
    (k : Nat) :
    Determined (Draft.variant k) (fun _ => 1) (MadeAt (Makes slots listed) parts.toList k)
      fun ctx => Verb.variant ctx slots parts listed k := by
  obtain ⟨before, last⟩ := parts
  unfold Verb.variant Cell.Parts.toList
  rcases before with _ | ⟨first, _ | ⟨second, _ | ⟨third, _ | ⟨_, _⟩⟩⟩⟩
  · refine (Determined.bind (.lift _) fun text _ => .bind (infinitiveForms_determined slots text)
      fun _ _ => .makeVariant ..).congr fun d => ?_
    simp only [List.nil_append, madeAt_cons, madeAt_nil, Makes]
    constructor
    · rintro ⟨infinitive, hinfinitive, _, ⟨rfl, hlength⟩, rfl⟩
      exact ⟨infinitive, hinfinitive, rfl, hlength⟩
    · rintro ⟨infinitive, hinfinitive, rfl, hshort⟩
      exact ⟨infinitive, hinfinitive, _, ⟨rfl, hshort⟩, rfl⟩
  · simp [fullSize] at hparts
  · simp [fullSize] at hparts
  · refine (Determined.bind (.lift _) fun text _ => .bind (infinitiveForms_determined slots text)
      fun _ _ => .bind (.lift _) fun _ _ => .bindForm _ _ _ <| .bind (.lift _) fun _ _ =>
      .bindForm _ _ _ <| .bind (.lift _) fun whole _ =>
      .bindForm slots.participle (Cell.takeLeadingAuxiliary whole).1 .typed
        (.makeVariant k _ (.ofTags auxiliariesProperty
          (allAuxiliaries listed (Cell.takeLeadingAuxiliary whole).2)))).congr fun d => ?_
    simp only [List.nil_append, List.cons_append, madeAt_cons, madeAt_nil, Makes]
    constructor
    · rintro ⟨infinitive, hinfinitive, _, ⟨rfl, hlength⟩, present, hpresent, hlength₁, preterite,
        hpreterite, hlength₂, participle, hparticiple, hlength₃, rfl⟩
      refine ⟨infinitive, hinfinitive, present, hpresent, preterite, hpreterite, participle,
        hparticiple, ⟨_, _, rfl, rfl⟩, List.forall_mem_append.2 ⟨hlength, ?_⟩⟩
      simp [hlength₁, hlength₂, hlength₃]
    · rintro ⟨infinitive, hinfinitive, present, hpresent, preterite, hpreterite, participle,
        hparticiple, ⟨text, marker, hleading, rfl⟩, hshort⟩
      obtain ⟨hlength, hothers⟩ := List.forall_mem_append.1 hshort
      obtain ⟨hlength₁, hlength₂, hlength₃⟩ :
          present.length ≤ _ ∧ preterite.length ≤ _ ∧ text.length ≤ _ := by
        simpa using hothers
      exact ⟨infinitive, hinfinitive, _, ⟨rfl, hlength⟩, present, hpresent, hlength₁, preterite,
        hpreterite, hlength₂, participle, hparticiple, by rwa [hleading], by rw [hleading]⟩
  · simp [fullSize] at hparts

theorem create_determined (slots : VerbSlots) {cell : List Char}
    (hcell : Text.isBlankText cell = false) :
    Determined Draft.lexeme List.length
      (fun ds => ∃ parts listed, Cell.takeTags cell fullSize Cell.takeAuxiliaries =
        .ok (parts, listed) ∧ MadeOf (Makes slots listed) parts ds)
      fun ctx => Verb.create ctx slots cell := by
  refine .ifFilled hcell ?_
  exact Determined.takeTags (M := Makes slots)
    (fun parts listed k hparts => variant_determined slots parts hparts listed k) cell
    Cell.takeAuxiliaries

end Verb

/-! ## All grammars -/

namespace Grammar

/-- The parts and the tags of a cell. Where commas separate nothing, the cell is its only part. -/
def takeApart (g : Grammar) (cell : List Char) :
    Except CellError (List (List Char) × SortedSet String) :=
  match g with
  | noun style => Noun.takeApart style cell
  | verb => Cell.takeTags cell Verb.fullSize Cell.takeAuxiliaries
  | misc => .ok ([Text.trim cell], ∅)
  | multi _ _ => .ok ([Text.trim cell], ∅)

/-- What a variant with given spellings is made of. -/
def Makes (g : Grammar) (slots : g.Slots) (tags : SortedSet String) :
    List (List Char) → Draft → Prop :=
  match g, slots with
  | noun style, slots => Noun.Makes style slots tags
  | verb, slots => Verb.Makes slots tags
  | misc, base => SpellingMakes base id
  | multi _ _, base => SpellingMakes base Multi.unescape

/-- What the variants of a cell are made of. -/
def MakesAll (g : Grammar) (slots : g.Slots) (cell : List Char) (ds : List Draft) : Prop :=
  ∃ parts tags, g.takeApart cell = .ok (parts, tags) ∧ MadeOf (g.Makes slots tags) parts ds

theorem create_determined (g : Grammar) (slots : g.Slots) (tag : String) {cell : List Char}
    (hcell : Text.isBlankText cell = false) :
    Determined Draft.lexeme List.length (g.MakesAll slots cell)
      fun ctx => g.create slots tag ctx cell := by
  have hwhole (P : List (List Char) → Prop) (tags : SortedSet String) :
      P [Text.trim cell] ↔ ∃ parts tags', (.ok ([Text.trim cell], tags) : Except CellError _) =
        .ok (parts, tags') ∧ P parts := by
    simp
  cases g with
  | noun style => exact Noun.create_determined slots style hcell
  | verb => exact Verb.create_determined slots hcell
  | misc =>
    exact (Misc.create_determined slots hcell).congr fun ds =>
      hwhole (fun parts => MadeOf (SpellingMakes slots id) parts ds) ∅
  | multi separator allowMultiWord =>
    exact (Multi.createPart_determined slots tag allowMultiWord hcell).congr fun ds =>
      hwhole (fun parts => MadeOf (SpellingMakes slots Multi.unescape) parts ds) ∅

theorem parts_ne_nil {g : Grammar} {cell : List Char} {parts : List (List Char)}
    {tags : SortedSet String} (h : g.takeApart cell = .ok (parts, tags)) : parts ≠ [] := by
  cases g with
  | noun style =>
    cases style with
    | genusSuffix =>
      have hread : Cell.takeTags cell 2 (Cell.takeGenus · Cell.nounGenera) = .ok (parts, tags) := h
      exact Cell.takeTags_ne_nil hread
    | articlePrefix =>
      obtain ⟨p, -, heq⟩ := map_eq_ok_iff.1 h
      obtain ⟨rfl, -⟩ := Prod.mk.inj heq
      exact List.concat_ne_nil _ _
  | verb =>
    have hread : Cell.takeTags cell Verb.fullSize Cell.takeAuxiliaries = .ok (parts, tags) := h
    exact Cell.takeTags_ne_nil hread
  | misc =>
    obtain ⟨rfl, -⟩ := Prod.mk.inj (Except.ok.inj h)
    exact List.cons_ne_nil _ _
  | multi separator allowMultiWord =>
    obtain ⟨rfl, -⟩ := Prod.mk.inj (Except.ok.inj h)
    exact List.cons_ne_nil _ _

theorem MakesAll.ne_nil {g : Grammar} {slots : g.Slots} {cell : List Char} {ds : List Draft}
    (h : g.MakesAll slots cell ds) : ds ≠ [] := by
  obtain ⟨parts, tags, hparts, hlength, -⟩ := h
  obtain ⟨part, hpart⟩ := List.exists_mem_of_ne_nil _ (parts_ne_nil hparts)
  have hpos : 0 < Cell.alternativeCount part := List.length_pos_iff.2 (Text.pieces_ne_nil _ _)
  rw [← List.length_pos_iff, hlength]
  exact Nat.lt_of_lt_of_le hpos (Cell.alternativeCount_le hpart)

end Grammar

theorem Multi.isBlankText_of_mem_lexemeParts {separator : Char} {cell part : List Char}
    (h : part ∈ lexemeParts separator cell) : Text.isBlankText part = false := by
  obtain ⟨hmem, hne⟩ := List.mem_filter.1 h
  obtain ⟨piece, -, rfl⟩ := List.mem_map.1 hmem
  rw [Text.isBlankText_trim, ← Text.trim_ne_nil_iff]
  simpa using hne

namespace Grammar

/-- The texts of the lexemes in a cell. -/
def lexemeParts (g : Grammar) (cell : List Char) : List (List Char) :=
  match g with
  | multi separator _ => Multi.lexemeParts separator cell
  | _ => [cell]

/-- The texts of the lexemes in a cell from which something is created. -/
def filledParts (g : Grammar) (cell : List Char) : List (List Char) :=
  (g.lexemeParts cell).filter fun part => !Text.isBlankText part

theorem filledParts_eq_lexemeParts {g : Grammar} {cell : List Char}
    (h : ∀ part ∈ g.lexemeParts cell, Text.isBlankText part = false) :
    g.filledParts cell = g.lexemeParts cell :=
  List.filter_eq_self.2 fun part hpart => by simp [h part hpart]

theorem filledParts_multi (separator : Char) (allowMultiWord : Bool) (cell : List Char) :
    (multi separator allowMultiWord).filledParts cell = Multi.lexemeParts separator cell :=
  filledParts_eq_lexemeParts fun _ => Multi.isBlankText_of_mem_lexemeParts

theorem create_blank (g : Grammar) (slots : g.Slots) (tag : String) (ctx : Context)
    {cell : List Char} (h : Text.isBlankText cell) : g.create slots tag ctx cell = return [] := by
  cases g <;> exact if_pos h

/-- A cell that is a lexeme of its own. -/
theorem create_single_determined (g : Grammar) (slots : g.Slots) (tag : String)
    (cell : List Char) :
    Determined Draft.lexemes (fun gs => gs.flatten.length)
      (List.Forall₂ (g.MakesAll slots) ([cell].filter fun part => !Text.isBlankText part))
      fun ctx => do
        let variants ← g.create slots tag ctx cell
        return if variants.isEmpty then [] else [variants] := by
  cases hcell : Text.isBlankText cell with
  | true =>
    simp only [g.create_blank slots tag _ hcell, pure_bind]
    refine (Determined.pure (b := []) rfl fun _ _ => rfl).congr fun gs => ?_
    simp [hcell]
  | false =>
    refine ((g.create_determined slots tag hcell).single fun _ => MakesAll.ne_nil).congr
      fun gs => ?_
    simp only [hcell, Bool.not_false, List.filter_cons_of_pos, List.filter_nil,
      List.forall₂_cons_left_iff, List.forall₂_nil_left_iff, exists_and_left, exists_eq_left,
      eq_comm]

/-- The lexemes of a cell are created one after another, each from its own part of the cell. -/
theorem createLexemes_determined (g : Grammar) (slots : g.Slots) (tag : String)
    (cell : List Char) :
    Determined Draft.lexemes (fun gs => gs.flatten.length)
      (List.Forall₂ (g.MakesAll slots) (g.filledParts cell))
      fun ctx => g.createLexemes slots tag ctx cell := by
  cases g with
  | noun style => exact create_single_determined (noun style) slots tag cell
  | verb => exact create_single_determined verb slots tag cell
  | misc => exact create_single_determined misc slots tag cell
  | multi separator allowMultiWord =>
    rw [filledParts_multi]
    refine .dropEmpty (.mapM fun part hpart =>
      create_determined _ slots tag (Multi.isBlankText_of_mem_lexemeParts hpart)) fun gs hgs => ?_
    generalize Multi.lexemeParts separator cell = parts at hgs
    induction hgs with
    | nil => simp
    | cons hds _ ih => exact List.forall_mem_cons.2 ⟨hds.ne_nil, ih⟩

end Grammar

theorem Creator.lexemeParts_eq (c : Creator) (row : Row) :
    c.lexemeParts row = c.grammar.lexemeParts (c.cell row) := by
  obtain ⟨tag, column, grammar, slots⟩ := c
  cases grammar <;> rfl

end Wordbook
