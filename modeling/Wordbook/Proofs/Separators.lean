import Wordbook.Proofs.Alignment
import Wordbook.Proofs.Bundle
import Wordbook.Proofs.Bytes
import Wordbook.Proofs.Joined
import Wordbook.Proofs.Written

/-!
# Separators and forms

A tilde in a cell separates spellings, and a comma separates parts, or names in
the block behind them. The text of a form is made of the characters of spellings,
so no tilde is among them. Commas are kept away from the parts by the block, and
from the forms by whoever takes the block off.

* `Cell.Parts.comma_of_ofCell`: the commas that are left in the parts of a cell;
* `Grammar.Makes.isSpelledBy`: where the characters of a form come from;
* `Creator.separators`: no form has a tilde, and which cells leave a comma in one.
-/

namespace Wordbook

namespace Text

theorem sep_not_mem_pieces (sep : Char) (t : List Char) : ∀ p ∈ pieces sep t, sep ∉ p := by
  induction t with
  | nil => simp
  | cons c t ih =>
    by_cases hc : c = sep
    · rw [hc, pieces_cons_self]
      exact List.forall_mem_cons.2 ⟨List.not_mem_nil, ih⟩
    · obtain ⟨p, ps, hps⟩ := List.exists_cons_of_ne_nil (pieces_ne_nil sep t)
      rw [hps, List.forall_mem_cons] at ih
      rw [pieces_cons_of_ne hc hps, List.forall_mem_cons, List.mem_cons, not_or]
      exact ⟨⟨Ne.symm hc, ih.1⟩, ih.2⟩

/-- A text and its pieces have the same characters, but for the separator. -/
theorem exists_mem_pieces_iff {sep d : Char} (hd : d ≠ sep) {t : List Char} :
    (∃ p ∈ pieces sep t, d ∈ p) ↔ d ∈ t := by
  induction t with
  | nil => simp
  | cons c t ih =>
    by_cases hc : c = sep
    · rw [hc, pieces_cons_self, List.exists_mem_cons_iff, ih, List.mem_cons]
      simp [hd]
    · obtain ⟨p, ps, hps⟩ := List.exists_cons_of_ne_nil (pieces_ne_nil sep t)
      rw [hps, List.exists_mem_cons_iff] at ih
      rw [pieces_cons_of_ne hc hps, List.exists_mem_cons_iff, List.mem_cons, List.mem_cons,
        or_assoc, ih]

theorem mem_of_mem_pieces {sep d : Char} {t p : List Char} (hp : p ∈ pieces sep t) (hd : d ∈ p) :
    d ∈ t := by
  refine (exists_mem_pieces_iff fun heq => ?_).1 ⟨p, hp, hd⟩
  exact sep_not_mem_pieces sep t p hp (heq ▸ hd)

theorem mem_of_mem_trimStart {t : List Char} {c : Char} (h : c ∈ trimStart t) : c ∈ t :=
  (List.dropWhile_suffix _).subset h

theorem mem_of_mem_trimEnd {t : List Char} {c : Char} (h : c ∈ trimEnd t) : c ∈ t :=
  (List.rdropWhile_prefix ..).subset h

theorem mem_of_mem_trim {t : List Char} {c : Char} (h : c ∈ trim t) : c ∈ t :=
  mem_of_mem_trimStart (mem_of_mem_trimEnd h)

theorem mem_trim_of_mem {t : List Char} {c : Char} (hc : isBlank c = false) (h : c ∈ t) :
    c ∈ trim t := by
  obtain ⟨before, after, hbefore, hafter, ht⟩ := exists_blanks_around t
  rw [ht, List.mem_append, List.mem_append] at h
  rcases h with (h | h) | h
  · exact absurd h (not_mem_of_blank hc hbefore)
  · exact h
  · exact absurd h (not_mem_of_blank hc hafter)

theorem mem_of_cutAtLast {p : Char → Bool} {t before after : List Char} {c d : Char}
    (h : cutAtLast p t = some (before, c, after)) (hd : d ∈ before) : d ∈ t := by
  obtain ⟨⟨after', c', before'⟩, hcut, heq⟩ := Option.map_eq_some_iff.1 h
  obtain ⟨rfl, -⟩ := Prod.mk.inj heq
  rw [← List.mem_reverse, (cutAtFirst_eq_some hcut).1]
  simp [List.mem_reverse.1 hd]

end Text

namespace Cell

open Text (isBlank pieces trim trimEnd)

/-! ## Blocks -/

/-- There is no block inside the last one. -/
theorem cutAtBlock_after {t before after : List Char} (h : cutAtBlock t = some (before, after)) :
    cutAtBlock ('(' :: after) = none := by
  induction t generalizing before with
  | nil => cases h
  | cons c t ih =>
    unfold cutAtBlock at h
    split at h
    · rename_i before' after' ht
      obtain ⟨-, rfl⟩ := Prod.mk.inj (Option.some.inj h)
      exact ih ht
    · rename_i ht
      split at h
      · obtain ⟨-, rfl⟩ := Prod.mk.inj (Option.some.inj h)
        exact ht
      · cases h

/-- What a cell may end with: a block, which is the last one in the cell, or nothing. -/
def IsBlock (block : List Char) : Prop :=
  block = [] ∨ ∃ inner, block = writeBlock inner ∧ cutAtBlock ('(' :: (inner ++ [')'])) = none

theorem Parts.eq_splitBlock (cell : List Char) :
    cell = (splitBlock cell).1 ++ (splitBlock cell).2 ∧ IsBlock (splitBlock cell).2 := by
  unfold splitBlock
  split
  · rename_i before after hcut
    split
    · rename_i hlast
      obtain ⟨inner, rfl⟩ := exists_concat_of_cutAtBlock hcut hlast
      exact ⟨eq_of_cutAtBlock hcut, .inr ⟨inner, rfl, cutAtBlock_after hcut⟩⟩
    · exact ⟨(List.append_nil _).symm, .inl rfl⟩
  · exact ⟨(List.append_nil _).symm, .inl rfl⟩

/-- The commas in the parts of a cell are those of its block. -/
theorem Parts.comma_of_ofCell {cell : List Char} {expected : Nat} {parts : Parts}
    (h : ofCell cell expected = .ok parts) :
    (∀ part ∈ parts.before, ',' ∉ part) ∧
      ∃ head, ',' ∉ head ∧ parts.last = head ++ (splitBlock (trim cell)).2 := by
  unfold ofCell at h
  dsimp only at h
  split at h
  · split at h
    · obtain rfl := Except.ok.inj h
      have hpieces : ∀ part ∈ (pieces ',' (splitBlock (trim cell)).1).map trim, ',' ∉ part := by
        intro part hpart hmem
        obtain ⟨piece, hpiece, rfl⟩ := List.mem_map.1 hpart
        exact Text.sep_not_mem_pieces _ _ piece hpiece (Text.mem_of_mem_trim hmem)
      refine ⟨fun part hpart => hpieces part ((List.dropLast_sublist _).subset hpart), _, ?_, rfl⟩
      have hne : (pieces ',' (splitBlock (trim cell)).1).map trim ≠ [] := by
        simpa using Text.pieces_ne_nil ',' _
      rw [List.getLastD_eq_getLast?, List.getLast?_eq_some_getLast hne]
      exact hpieces _ (List.getLast_mem hne)
    · nomatch h
  · rename_i hcomma
    obtain rfl := Except.ok.inj h
    exact ⟨nofun, _, by simpa using hcomma, (eq_splitBlock (trim cell)).1⟩

/-- What takes tags off the end of a text takes a block away as a whole, and adds nothing. -/
structure TakesBlock (take : List Char → Except CellError (List Char × SortedSet String)) :
    Prop where
  subset : ∀ {t text tags}, take t = .ok (text, tags) → ∀ c ∈ text, c ∈ t
  before : ∀ {t text tags before inner}, trailingBlock t = some (before, inner) →
    take t = .ok (text, tags) → text = before

theorem mem_of_trailingBlock {t before inner : List Char}
    (h : trailingBlock t = some (before, inner)) {c : Char} (hc : c ∈ before) : c ∈ t := by
  unfold trailingBlock at h
  dsimp only at h
  split at h
  · obtain ⟨⟨before', after⟩, hcut, heq⟩ := Option.map_eq_some_iff.1 h
    obtain ⟨rfl, -⟩ := Prod.mk.inj heq
    refine Text.mem_of_mem_trimEnd ?_
    rw [eq_of_cutAtBlock hcut]
    exact List.mem_append_left _ (Text.mem_of_mem_trimEnd hc)
  · nomatch h

theorem takesBlock_takeGenus (allowed : List String) : TakesBlock (takeGenus · allowed) where
  subset {t text tags} h c hc := by
    unfold takeGenus at h
    split at h
    · rename_i hblock
      obtain ⟨_, -, heq⟩ := map_eq_ok_iff.1 h
      obtain ⟨rfl, -⟩ := Prod.mk.inj heq
      exact mem_of_trailingBlock hblock hc
    · refine Text.mem_of_mem_trim ?_
      dsimp only at h
      split at h
      · rename_i hcut
        split at h
        · obtain ⟨rfl, -⟩ := Prod.mk.inj (Except.ok.inj h)
          exact Text.mem_of_cutAtLast hcut (Text.mem_of_mem_trimEnd hc)
        · obtain ⟨rfl, -⟩ := Prod.mk.inj (Except.ok.inj h)
          exact hc
      · obtain ⟨rfl, -⟩ := Prod.mk.inj (Except.ok.inj h)
        exact hc
  before hblock h := by
    rw [takeGenus, hblock] at h
    obtain ⟨_, -, heq⟩ := map_eq_ok_iff.1 h
    exact (congrArg Prod.fst heq).symm

theorem takesBlock_takeAuxiliaries : TakesBlock takeAuxiliaries where
  subset {t text tags} h c hc := by
    unfold takeAuxiliaries at h
    split at h
    · rename_i hblock
      obtain ⟨_, -, heq⟩ := bind_eq_ok_iff.1 h
      obtain ⟨rfl, -⟩ := Prod.mk.inj (Except.ok.inj heq)
      exact mem_of_trailingBlock hblock hc
    · obtain ⟨rfl, -⟩ := Prod.mk.inj (Except.ok.inj h)
      exact Text.mem_of_mem_trim hc
  before hblock h := by
    rw [takeAuxiliaries, hblock] at h
    obtain ⟨_, -, heq⟩ := bind_eq_ok_iff.1 h
    exact (congrArg Prod.fst (Except.ok.inj heq)).symm

/-- Once the block is taken off, no comma is left. -/
theorem comma_of_takeTags {cell : List Char} {expected : Nat}
    {take : List Char → Except CellError (List Char × SortedSet String)} {parts : List (List Char)}
    {tags : SortedSet String} (htake : TakesBlock take)
    (h : takeTags cell expected take = .ok (parts, tags)) : ∀ part ∈ parts, ',' ∉ part := by
  obtain ⟨p, hp, h⟩ := bind_eq_ok_iff.1 h
  obtain ⟨⟨last, tags'⟩, hlast, heq⟩ := bind_eq_ok_iff.1 h
  obtain ⟨rfl, -⟩ := Prod.mk.inj (Except.ok.inj heq)
  obtain ⟨hbefore, head, hhead, hblock⟩ := Parts.comma_of_ofCell hp
  refine List.forall_mem_append.2 ⟨hbefore, List.forall_mem_singleton.2 fun hmem => ?_⟩
  rcases (Parts.eq_splitBlock (trim cell)).2 with hnil | ⟨inner, hinner, hcut⟩
  · rw [hnil, List.append_nil] at hblock
    exact hhead (hblock ▸ htake.subset hlast _ hmem)
  · rw [hinner] at hblock
    have hbefore := htake.before (hblock ▸ trailingBlock_append_block hcut head) hlast
    exact hhead (Text.mem_of_mem_trimEnd (hbefore ▸ hmem))

/-! ## Spellings -/

theorem mem_of_alternative {part text : List Char} {k : Nat} (h : alternative part k = .ok text) :
    '~' ∉ text ∧ ∀ c ∈ text, c ∈ part := by
  obtain ⟨piece, hpiece, -, rfl⟩ := alternative_eq_ok_iff.1 h
  have hmem := mem_of_shared? hpiece
  exact ⟨fun htilde => Text.sep_not_mem_pieces _ _ piece hmem (Text.mem_of_mem_trim htilde),
    fun c hc => Text.mem_of_mem_pieces hmem (Text.mem_of_mem_trim hc)⟩

/-- A character of a part is one of some alternative, if there are alternatives at all indices. -/
theorem exists_alternative_of_mem {part : List Char} {c : Char} (hc : c ∈ part) (htilde : c ≠ '~')
    (hblank : isBlank c = false) :
    ∃ k < alternativeCount part, ∀ text, alternative part k = .ok text → c ∈ text := by
  obtain ⟨piece, hpiece, hmem⟩ := (Text.exists_mem_pieces_iff htilde).2 hc
  obtain ⟨k, hk, rfl⟩ := List.getElem_of_mem hpiece
  refine ⟨k, hk, fun text htext => ?_⟩
  obtain ⟨piece', hpiece', -, rfl⟩ := alternative_eq_ok_iff.1 htext
  rw [shared?_self hk, List.getElem?_eq_getElem hk] at hpiece'
  obtain rfl := Option.some.inj hpiece'
  exact Text.mem_trim_of_mem hblank hmem

theorem exists_of_takeArticle {t text : List Char} {genus : String}
    (h : takeArticle t = .ok (text, genus)) :
    ∃ article ∈ articles, ∃ c rest, trim t = article.1.toList ++ c :: rest ∧ isBlank c ∧
      text = trim rest := by
  unfold takeArticle at h
  dsimp only at h
  split at h
  · rename_i r hr
    obtain rfl := Except.ok.inj h
    obtain ⟨article, harticle, hr⟩ := List.exists_of_findSome?_eq_some hr
    refine ⟨article, harticle, ?_⟩
    split at hr
    · rename_i c rest hdrop
      split at hr
      · rename_i hrest
        obtain ⟨rfl, -⟩ := Prod.mk.inj (Option.some.inj hr)
        simp only [Bool.and_eq_true] at hrest
        refine ⟨c, rest, ?_, hrest.1.1, ?_⟩
        · unfold dropWord? at hdrop
          split at hdrop
          · rename_i hprefix
            obtain ⟨behind, hbehind⟩ := List.isPrefixOf_iff_prefix.1 hprefix
            rw [← hbehind, List.drop_left] at hdrop
            rw [← hbehind, Option.some.inj hdrop]
          · nomatch hdrop
        · exact congrArg trimEnd (List.dropWhile_idempotent _ _)
      · nomatch hr
    · nomatch hr
  · nomatch h

/-- Taking the article off takes blanks and characters of the article away, and nothing else. -/
theorem mem_takeArticle {t text : List Char} {genus : String}
    (h : takeArticle t = .ok (text, genus)) :
    (∀ c ∈ text, c ∈ t) ∧ ∀ c ∈ t, isBlank c = false →
      (∀ article ∈ articles, c ∉ article.1.toList) → c ∈ text := by
  obtain ⟨article, harticle, gap, rest, htrim, hgap, rfl⟩ := exists_of_takeArticle h
  constructor
  · intro c hc
    refine Text.mem_of_mem_trim ?_
    rw [htrim]
    exact List.mem_append_right _ (List.mem_cons_of_mem _ (Text.mem_of_mem_trim hc))
  · intro c hc hblank hno
    have hmem := Text.mem_trim_of_mem hblank hc
    rw [htrim, List.mem_append, List.mem_cons] at hmem
    rcases hmem with hmem | rfl | hmem
    · exact absurd hmem (hno article harticle)
    · exact absurd (hgap.symm.trans hblank) (by decide)
    · exact Text.mem_trim_of_mem hblank hmem

theorem mem_of_mem_takeLeadingAuxiliary {t : List Char} {c : Char}
    (h : c ∈ (takeLeadingAuxiliary t).1) : c ∈ t := by
  refine Text.mem_of_mem_trim ?_
  unfold takeLeadingAuxiliary at h
  dsimp only at h
  split at h
  · rename_i hcut
    split at h
    · rw [(Text.cutAtFirst_eq_some hcut).1]
      exact List.mem_append_right _ (List.mem_cons_of_mem _ (Text.mem_of_mem_trim h))
    · exact h
  · exact h

end Cell

theorem Noun.mem_expandPlural {token singular text : List Char} {state : FormState}
    (h : expandPlural token singular = .ok (text, state)) :
    (∀ c ∈ text, c ∈ token ∨ c ∈ singular) ∧ ∀ c ∈ token, c ≠ '-' → c ∈ text := by
  unfold expandPlural at h
  split at h
  · obtain ⟨rfl, -⟩ := Prod.mk.inj (Except.ok.inj h)
    exact ⟨fun _ => .inl, fun _ hc _ => hc⟩
  · obtain ⟨rfl, -⟩ := Prod.mk.inj (Except.ok.inj h)
    constructor
    · intro c hc
      obtain ⟨d, hd, hc⟩ := List.mem_flatMap.1 hc
      split at hc
      · exact .inr hc
      · exact .inl (List.mem_singleton.1 hc ▸ hd)
    · intro c hc hdash
      refine List.mem_flatMap.2 ⟨c, hc, ?_⟩
      rw [if_neg hdash]
      exact List.mem_singleton_self c
  · nomatch h

theorem Multi.mem_of_mem_dropEscapes {c d : Char} {t : List Char} (h : d ∈ dropEscapes c t) :
    d ∈ t := by
  fun_induction dropEscapes c t with
  | case1 => exact h
  | case2 e => exact h
  | case3 e f t hef ih =>
    obtain ⟨-, rfl⟩ : e = '\\' ∧ f = c := by simpa using hef
    rcases List.mem_cons.1 h with rfl | h
    · simp
    · exact List.mem_cons_of_mem _ (List.mem_cons_of_mem _ (ih h))
  | case4 e f t hef ih =>
    rcases List.mem_cons.1 h with rfl | h
    · exact List.mem_cons_self
    · exact List.mem_cons_of_mem _ (ih h)

/-! ## Forms -/

@[simp] theorem Slot.toList_form_text (slot : Slot) (text : List Char) (state : FormState) :
    (slot.form text state).text.toList = text :=
  String.toList_ofList ..

/-- Every character of a form is one of a spelling. -/
def Draft.IsSpelledBy (d : Draft) (spellings : List (List Char)) : Prop :=
  ∀ f ∈ d.forms, ∀ c ∈ f.text.toList, ∃ t ∈ spellings, c ∈ t

section

variable {spellings : List (List Char)} {d : Draft}

theorem SpellingMakes.isSpelledBy {base : Slot} {edit : List Char → List Char}
    (hedit : ∀ t, ∀ c ∈ edit t, c ∈ t) (h : SpellingMakes base edit spellings d) :
    d.IsSpelledBy spellings := by
  unfold SpellingMakes at h
  split at h
  · subst h
    refine List.forall_mem_singleton.2 fun c hc => ⟨_, List.mem_cons_self, hedit _ c ?_⟩
    rwa [Slot.toList_form_text] at hc
  · exact h.elim

theorem Noun.Makes.isSpelledBy {style : NounStyle} {slots : NounSlots} {genera : SortedSet String}
    (h : Noun.Makes style slots genera spellings d) : d.IsSpelledBy spellings := by
  cases style with
  | genusSuffix =>
    change SuffixMakes slots genera spellings d at h
    unfold SuffixMakes at h
    split at h
    · subst h
      simp [Draft.IsSpelledBy]
    · subst h
      simp only [Draft.IsSpelledBy, List.forall_mem_cons, Slot.toList_form_text]
      exact ⟨fun c hc => ⟨_, List.mem_cons_self, hc⟩,
        fun c hc => ⟨_, List.mem_cons_of_mem _ List.mem_cons_self, hc⟩, nofun⟩
    · exact h.elim
  | articlePrefix =>
    change ArticleMakes slots spellings d at h
    unfold ArticleMakes at h
    split at h
    · obtain ⟨singular, genus, harticle, rfl⟩ := h
      simp only [Draft.IsSpelledBy, List.forall_mem_singleton, Slot.toList_form_text]
      exact fun c hc => ⟨_, List.mem_cons_self, (Cell.mem_takeArticle harticle).1 c hc⟩
    · obtain ⟨singular, genus, harticle, plural, state, hplural, rfl⟩ := h
      have hsingular (c) (hc : c ∈ singular) := (Cell.mem_takeArticle harticle).1 c hc
      simp only [Draft.IsSpelledBy, List.forall_mem_cons, Slot.toList_form_text]
      refine ⟨fun c hc => ⟨_, List.mem_cons_self, hsingular c hc⟩, fun c hc => ?_, nofun⟩
      rcases (mem_expandPlural hplural).1 c hc with hc | hc
      · exact ⟨_, List.mem_cons_of_mem _ List.mem_cons_self, hc⟩
      · exact ⟨_, List.mem_cons_self, hsingular c hc⟩
    · exact h.elim

theorem Verb.infinitives_isSpelledBy (slots : VerbSlots) (text : List Char) :
    ∀ f ∈ infinitives slots text, ∀ c ∈ f.text.toList, c ∈ text := by
  unfold infinitives
  split
  · simp only [List.forall_mem_cons, Slot.toList_form_text]
    exact ⟨fun c hc => (List.mem_filter.1 hc).1, fun c hc => hc, nofun⟩
  · simp

theorem Verb.Makes.isSpelledBy {slots : VerbSlots} {listed : SortedSet String}
    (h : Verb.Makes slots listed spellings d) : d.IsSpelledBy spellings := by
  unfold Verb.Makes at h
  split at h
  · subst h
    exact fun f hf c hc => ⟨_, List.mem_cons_self, infinitives_isSpelledBy _ _ f hf c hc⟩
  · rename_i infinitive present preterite participle
    obtain ⟨text, marker, hleading, rfl⟩ := h
    obtain rfl : (Cell.takeLeadingAuxiliary participle).1 = text := congrArg Prod.fst hleading
    refine List.forall_mem_append.2 ⟨fun f hf c hc =>
      ⟨_, List.mem_cons_self, infinitives_isSpelledBy _ _ f hf c hc⟩, ?_⟩
    simp only [List.forall_mem_cons, Slot.toList_form_text]
    exact ⟨fun c hc => ⟨present, by simp, hc⟩, fun c hc => ⟨preterite, by simp, hc⟩,
      fun c hc => ⟨participle, by simp, Cell.mem_of_mem_takeLeadingAuxiliary hc⟩, nofun⟩
  · exact h.elim

end

/-- The comma of a spelling is not lost with its article, or for the dash of a plural. -/
theorem Noun.ArticleMakes.exists_comma {slots : NounSlots} {spellings : List (List Char)}
    {d : Draft} (h : ArticleMakes slots spellings d) {t : List Char} (ht : t ∈ spellings)
    (hcomma : ',' ∈ t) : ∃ f ∈ d.forms, ',' ∈ f.text.toList := by
  have harticles : ∀ article ∈ Cell.articles, ',' ∉ article.1.toList := by decide
  unfold ArticleMakes at h
  split at h
  · obtain ⟨singular, genus, harticle, rfl⟩ := h
    obtain rfl := List.mem_singleton.1 ht
    refine ⟨_, List.mem_cons_self, ?_⟩
    rw [Slot.toList_form_text]
    exact (Cell.mem_takeArticle harticle).2 _ hcomma (by decide) harticles
  · obtain ⟨singular, genus, harticle, plural, state, hplural, rfl⟩ := h
    rcases List.mem_cons.1 ht with rfl | ht
    · refine ⟨_, List.mem_cons_self, ?_⟩
      rw [Slot.toList_form_text]
      exact (Cell.mem_takeArticle harticle).2 _ hcomma (by decide) harticles
    · obtain rfl := List.mem_singleton.1 ht
      refine ⟨_, List.mem_cons_of_mem _ List.mem_cons_self, ?_⟩
      rw [Slot.toList_form_text]
      exact (mem_expandPlural hplural).2 _ hcomma (by decide)
  · exact h.elim

namespace Grammar

open Text (trim)

theorem Makes.isSpelledBy {g : Grammar} {slots : g.Slots} {tags : SortedSet String}
    {spellings : List (List Char)} {d : Draft} (h : g.Makes slots tags spellings d) :
    d.IsSpelledBy spellings := by
  cases g with
  | noun style => exact Noun.Makes.isSpelledBy h
  | verb => exact Verb.Makes.isSpelledBy h
  | misc => exact SpellingMakes.isSpelledBy (fun _ _ hc => hc) h
  | multi separator allowMultiWord =>
    exact SpellingMakes.isSpelledBy
      (fun _ _ hc => Multi.mem_of_mem_dropEscapes (Multi.mem_of_mem_dropEscapes hc)) h

/-- What commas a cell may leave in forms: those of a block that is not taken off. -/
def LeavesComma (g : Grammar) (cell : List Char) : Prop :=
  g = noun .articlePrefix ∧ ',' ∈ (Cell.Parts.splitBlock (trim cell)).2

section

variable {g : Grammar} {slots : g.Slots} {cell : List Char} {ds : List Draft}

/-- The forms of a cell have no tildes, and no characters but those of its parts. -/
theorem MakesAll.mem_form (h : g.MakesAll slots cell ds) :
    ∃ parts tags, g.takeApart cell = .ok (parts, tags) ∧
      ∀ d ∈ ds, ∀ f ∈ d.forms, ∀ c ∈ f.text.toList, c ≠ '~' ∧ ∃ part ∈ parts, c ∈ part := by
  obtain ⟨parts, tags, hparts, hmade⟩ := h
  refine ⟨parts, tags, hparts, hmade.forall fun k d ⟨spellings, hspellings, hmakes, _⟩ => ?_⟩
  intro f hf c hc
  obtain ⟨t, ht, hct⟩ := Makes.isSpelledBy hmakes f hf c hc
  obtain ⟨part, hpart, halternative⟩ := exists_of_mem_forall₂ hspellings.flip ht
  obtain ⟨htilde, hmem⟩ := Cell.mem_of_alternative halternative
  refine ⟨?_, part, hpart, hmem c hct⟩
  rintro rfl
  exact htilde hct

/-- Parts without a comma, unless a block with one is left at the end of the last one. -/
theorem comma_of_takeApart (hg : g = verb ∨ ∃ style, g = noun style) {parts : List (List Char)}
    {tags : SortedSet String} (h : g.takeApart cell = .ok (parts, tags)) :
    (∃ part ∈ parts, ',' ∈ part) ↔ g.LeavesComma cell := by
  have hnone (hparts : ∀ part ∈ parts, ',' ∉ part) (hg : g ≠ noun .articlePrefix) :
      (∃ part ∈ parts, ',' ∈ part) ↔ g.LeavesComma cell :=
    iff_of_false (fun ⟨part, hpart, hcomma⟩ => hparts part hpart hcomma) fun hleaves => hg hleaves.1
  rcases hg with rfl | ⟨_ | _, rfl⟩
  · exact hnone (Cell.comma_of_takeTags Cell.takesBlock_takeAuxiliaries h) nofun
  · exact hnone (Cell.comma_of_takeTags (Cell.takesBlock_takeGenus _) h) nofun
  · obtain ⟨p, hp, heq⟩ := map_eq_ok_iff.1 h
    obtain ⟨rfl, -⟩ := Prod.mk.inj heq
    obtain ⟨hbefore, head, hhead, hlast⟩ := Cell.Parts.comma_of_ofCell hp
    rw [LeavesComma, and_iff_right rfl, Cell.Parts.toList, hlast]
    constructor
    · rintro ⟨part, hpart, hcomma⟩
      rcases List.mem_append.1 hpart with hpart | hpart
      · exact absurd hcomma (hbefore part hpart)
      · rw [List.mem_singleton.1 hpart, List.mem_append] at hcomma
        exact hcomma.resolve_left hhead
    · exact fun hcomma => ⟨_, List.mem_append_right _ List.mem_cons_self,
        List.mem_append_right _ hcomma⟩

/-- A comma that is left in a part comes up in a form. -/
theorem MakesAll.exists_comma {parts : List (List Char)} {tags : SortedSet String}
    (hparts : (noun .articlePrefix).takeApart cell = .ok (parts, tags)) {slots : NounSlots}
    (h : (noun .articlePrefix).MakesAll slots cell ds) (hcomma : ∃ part ∈ parts, ',' ∈ part) :
    ∃ d ∈ ds, ∃ f ∈ d.forms, ',' ∈ f.text.toList := by
  obtain ⟨parts', tags', hparts', hlength, hmade⟩ := h
  obtain ⟨rfl, rfl⟩ := Prod.mk.inj (Except.ok.inj (hparts.symm.trans hparts'))
  obtain ⟨part, hpart, hmem⟩ := hcomma
  obtain ⟨k, hk, htext⟩ := Cell.exists_alternative_of_mem hmem (by decide) (by decide)
  have hlt : k < ds.length := hlength ▸ Nat.lt_of_lt_of_le hk (Cell.alternativeCount_le hpart)
  obtain ⟨spellings, hspellings, hmakes, -⟩ := hmade k ds[k] (List.getElem?_eq_getElem hlt)
  obtain ⟨t, ht, halternative⟩ := exists_of_mem_forall₂ hspellings hpart
  exact ⟨ds[k], List.getElem_mem hlt,
    Noun.ArticleMakes.exists_comma hmakes ht (htext t halternative)⟩

theorem MakesAll.comma_iff (hg : g = verb ∨ ∃ style, g = noun style)
    (h : g.MakesAll slots cell ds) :
    (∃ d ∈ ds, ∃ f ∈ d.forms, ',' ∈ f.text.toList) ↔ g.LeavesComma cell := by
  obtain ⟨parts, tags, hparts, hmem⟩ := h.mem_form
  rw [← comma_of_takeApart hg hparts]
  constructor
  · rintro ⟨d, hd, f, hf, hcomma⟩
    exact (hmem d hd f hf _ hcomma).2
  · intro hcomma
    obtain rfl : g = noun .articlePrefix := ((comma_of_takeApart hg hparts).1 hcomma).1
    exact MakesAll.exists_comma hparts h hcomma

end

end Grammar

/-- A noun or a verb has no tilde in its forms. It has no comma in them either, but for the comma of
a block behind a noun with an article: that block is kept apart from the parts, and then left. -/
theorem Creator.separators {c : Creator} {slots : c.grammar.Slots} (hslots : c.slots = some slots)
    (hgrammar : c.grammar = .verb ∨ ∃ style, c.grammar = .noun style) (label : String)
    (orthographyId : Int64) (row : Row) :
    ∃ creation, c.create label orthographyId row = .ok creation ∧ ∀ ledger vs after,
      creation ledger = (.ok vs, after) →
        (∀ v ∈ vs, ∀ f ∈ v.forms, '~' ∉ f.text.toList) ∧
        ((∀ v ∈ vs, ∀ f ∈ v.forms, ',' ∉ f.text.toList) ↔
          ¬c.grammar.LeavesComma (c.cell row)) := by
  refine ⟨_, by rw [create, createText, hslots], fun ledger vs after hvs => ?_⟩
  cases hcell : Text.isBlankText (c.cell row) with
  | true =>
    rw [Grammar.create_blank _ _ _ _ hcell] at hvs
    obtain rfl := Except.ok.inj (congrArg Prod.fst hvs).symm
    refine ⟨List.forall_mem_nil _, iff_of_true (List.forall_mem_nil _) fun hleaves => ?_⟩
    rw [Grammar.LeavesComma, Text.trim_eq_nil_iff.2 hcell] at hleaves
    exact absurd hleaves.2 (by decide)
  | false =>
    obtain ⟨ds, hds, rfl⟩ :=
      (c.grammar.create_determined slots c.tag hcell).apply_eq_ok_iff.1 ⟨after, hvs⟩
    obtain ⟨parts, tags, -, hmem⟩ := hds.mem_form
    have htilde : ∀ d ∈ ds, ∀ f ∈ d.forms, '~' ∉ f.text.toList :=
      fun d hd f hf h => (hmem d hd f hf _ h).1 rfl
    rw [Draft.forall_form_lexeme (P := fun text _ => '~' ∉ text.toList),
      Draft.forall_form_lexeme (P := fun text _ => ',' ∉ text.toList), ← hds.comma_iff hgrammar]
    exact ⟨htilde, by simp⟩

/-- Two genera behind a noun with an article: they are no parts of their own, and stay where they
are written. -/
theorem Creator.separators_left :
    ∃ creation vs after, (sampleNoun .articlePrefix).create "n" 1 ⟨2, ["de Deern (f, m)"]⟩ =
        .ok creation ∧ creation ⟨(-1 : Int64), []⟩ = (.ok vs, after) ∧
      vs.flatMap (fun v => v.forms.map (·.text)) = ["Deern (f, m)"] ∧
      (∀ v ∈ vs, ∀ f ∈ v.forms, '~' ∉ f.text.toList) ∧
      ¬∀ v ∈ vs, ∀ f ∈ v.forms, ',' ∉ f.text.toList := by
  obtain ⟨creation, hcreation, hforms⟩ := @separators (sampleNoun .articlePrefix) _ rfl
    (.inr ⟨_, rfl⟩) "n" 1 ⟨2, ["de Deern (f, m)"]⟩
  obtain ⟨creation', vs, after, hcreation', hrun, htexts⟩ := Creation.exists_of_map
    ((sampleNoun .articlePrefix).create "n" 1 ⟨2, ["de Deern (f, m)"]⟩) ⟨(-1 : Int64), []⟩
    (fun vs => vs.flatMap fun v => v.forms.map (·.text)) ["Deern (f, m)"] (by decide +kernel)
  obtain rfl := Except.ok.inj (hcreation'.symm.trans hcreation)
  obtain ⟨htilde, hcomma⟩ := hforms _ vs after hrun
  exact ⟨creation', vs, after, hcreation', hrun, htexts, htilde,
    fun hnone => hcomma.1 hnone ⟨rfl, by decide +kernel⟩⟩

end Wordbook
