import Wordbook.Proofs.Written

/-!
# Noun cells

What is written in a noun cell is what is read from it, in both notations.

* `Noun.creates_suffixed`: nouns with their genus behind them, in a block or as a
  last word;
* `Noun.creates_articled`: nouns with an article before each singular, where a
  dash in a plural stands for the singular of the same variant.
-/

namespace Wordbook

open Creation

namespace Cell

open Text (isBlank isBlankText trim trimEnd)

/-- The ways to write some genera behind a cell: all of them in a block, in any order, or a single
one as a last word. -/
inductive GenusMark : SortedSet String → List Char → Prop
  | block {genera : SortedSet String} {tags : List String} {gap : List Char}
      (htags : tags.Perm genera.toList) (hgap : isBlankText gap) :
      GenusMark genera (writeBlock (joinNames gap (tags.map String.toList)))
  | word (tag : String) : GenusMark (.singleton tag) (' ' :: tag.toList)

theorem isName_nounGenera {tag : String} (htag : tag ∈ nounGenera) : IsName tag.toList := by
  have hnames : ∀ tag ∈ nounGenera, IsName tag.toList := by decide
  exact hnames tag htag

section

variable {genera : SortedSet String} {mark last : List Char}

theorem isName_tags {tags : List String} (htags : ∀ tag ∈ tags, tag ∈ nounGenera) :
    ∀ name ∈ tags.map String.toList, IsName name := by
  intro name hname
  obtain ⟨tag, htag, rfl⟩ := List.mem_map.1 hname
  exact isName_nounGenera (htags tag htag)

theorem takeGenus_block {tags : List String} {gap : List Char} (hgap : isBlankText gap)
    (hne : tags ≠ []) (htags : ∀ tag ∈ tags, tag ∈ nounGenera) (hlast : IsPart last) :
    takeGenus (last ++ writeBlock (joinNames gap (tags.map String.toList))) nounGenera =
      .ok (last, .ofList tags) := by
  have hnames := isName_tags htags
  have hread : genusTags nounGenera (joinNames gap (tags.map String.toList)) =
      .ok (.ofList tags) := by
    rw [genusTags, names_joinNames hgap (by simpa using hne) hnames]
    refine bind_eq_ok_iff.2 ⟨tags, mapM_eq_ok_iff.2 ?_, rfl⟩
    rw [List.forall₂_map_left_iff, List.forall₂_same]
    intro tag htag
    simp [htags tag htag]
  rw [takeGenus, trailingBlock_writeBlock (paren_not_mem_joinNames hgap hnames) hlast.trimEnd_eq]
  dsimp only
  rw [hread]
  rfl

theorem takeGenus_word {tag : String} (htag : tag ∈ nounGenera) (hlast : IsPart last) :
    takeGenus (last ++ ' ' :: tag.toList) nounGenera = .ok (last, .singleton tag) := by
  have hname := isName_nounGenera htag
  have hpart := hlast.append_space hname.isPart
  have hend : (last ++ ' ' :: tag.toList).getLast? ≠ some ')' :=
    Text.getLast?_append_space_ne hname.ne_nil (hname.not_mem (by decide)) last
  have hnone := trailingBlock_eq_none hpart.trimEnd_eq hend
  have hcut : Text.cutAtLast isBlank (last ++ ' ' :: tag.toList) = some (last, ' ', tag.toList) :=
    Text.cutAtLast_append_cons (fun c hc => hname.not_blank hc) (by decide) last
  have hne : trim last ≠ [] := hlast.trim_eq.symm ▸ hlast.ne_nil
  rw [takeGenus, hnone, hpart.trim_eq]
  dsimp only
  rw [hcut]
  simp [htag, hne, hlast.trimEnd_eq]

/-- The genera are read off a cell, however they are written behind it. -/
theorem takeTags_mark (hne : genera.toList ≠ [])
    (hgenera : ∀ tag ∈ genera.toList, tag ∈ nounGenera) (hmark : GenusMark genera mark)
    {before : List (List Char)} (hsize : before = [] ∨ before.length + 1 = 2)
    (hparts : ∀ part ∈ before ++ [last], IsPart part) :
    takeTags (joinParts (before ++ [last]) ++ mark) 2 (takeGenus · nounGenera) =
      .ok (before ++ [last], genera) := by
  have hlast : IsPart last := hparts last (by simp)
  cases hmark with
  | @block _ tags gap htags hgap =>
    have hmem : ∀ tag ∈ tags, tag ∈ nounGenera := fun tag htag => hgenera tag (htags.mem_iff.1 htag)
    have hpos : tags ≠ [] := by
      rintro rfl
      exact hne htags.nil_eq.symm
    have hblock := takeGenus_block hgap hpos hmem hlast
    rw [SortedSet.ofList_eq_of_perm htags] at hblock
    exact takeTags_eq_ok (Parts.ofCell_block hsize hparts
      (paren_not_mem_joinNames hgap (isName_tags hmem))) hblock
  | word tag =>
    have hmem : tag ∈ nounGenera := hgenera tag List.mem_cons_self
    have hname := isName_nounGenera hmem
    have hparts' : ∀ part ∈ before ++ [last ++ ' ' :: tag.toList], IsPart part := by
      rw [List.forall_mem_append, List.forall_mem_singleton] at hparts ⊢
      exact ⟨hparts.1, hlast.append_space hname.isPart⟩
    have hend : (last ++ ' ' :: tag.toList).getLast? ≠ some ')' :=
      Text.getLast?_append_space_ne hname.ne_nil (hname.not_mem (by decide)) last
    have hword := takeGenus_word hmem hlast
    rw [joinParts, Text.intercalate_concat_append]
    exact takeTags_eq_ok (Parts.ofCell_plain hsize hparts' hend) hword

end

end Cell

/-! ## Nouns with their genus behind them -/

theorem Properties.ofTags_of_ne_nil (name : String) {tags : SortedSet String}
    (h : tags.toList ≠ []) : Properties.ofTags name tags = .singleton name tags :=
  if_neg (by simpa [SortedSet.isEmpty] using h)

namespace Noun

variable {tag : String} {column : Nat} {slots : NounSlots} {n : Nat}

/-- The parts of a noun cell: the singulars, and the plurals if there are some. -/
def parts (singulars : Alternatives (List Char) n) (plurals : Option (Alternatives (List Char) n)) :
    List (Alternatives (List Char) n) :=
  singulars :: plurals.toList

theorem length_parts (singulars : Alternatives (List Char) n)
    (plurals : Option (Alternatives (List Char) n)) :
    (parts singulars plurals).length = 1 ∨ (parts singulars plurals).length = 2 := by
  cases plurals with
  | none => exact .inl rfl
  | some p => exact .inr rfl

/-- Every variant of a noun has the spellings that are written for it, and the genera that are
written behind the cell. -/
theorem creates_suffixed {singulars : Alternatives (List Char) n}
    {plurals : Option (Alternatives (List Char) n)}
    (hparts : Cell.IsWritable (parts singulars plurals))
    (hshort : ∀ p ∈ parts singulars plurals, ∀ t ∈ p.toList, t.length ≤ maxFormLength)
    {genera : SortedSet String} (hne : genera.toList ≠ [])
    (hgenera : ∀ g ∈ genera.toList, g ∈ Cell.nounGenera) {mark : List Char}
    (hmark : Cell.GenusMark genera mark) {row : Row}
    (hrow : row.cell column = String.ofList
      (Cell.joinParts (Cell.writeParts (parts singulars plurals)) ++ mark)) :
    (Creator.mk tag column (.noun .genusSuffix) (some slots)).Creates row fun vs =>
      vs.length = n ∧ ∀ k : Fin n, ∃ v, vs[(k : Nat)]? = some v ∧
        v.forms = (slots.singular.form (singulars.get k) .typed ::
          plurals.toList.map fun p => slots.plural.form (p.get k) .typed).map
            (fun form => { form with variantId := some v.id }) ∧
        v.properties = .singleton generaProperty genera := by
  obtain ⟨before, last, hwritten, hsize, hisPart⟩ :=
    hparts.exists_eq_concat (length_parts singulars plurals)
  have hread := Cell.takeTags_mark hne hgenera hmark hsize hisPart
  rw [← hwritten] at hread
  refine (Creator.creates_written (c := ⟨tag, column, .noun .genusSuffix, some slots⟩) rfl hparts
    mark hread hrow (fun k => ⟨slots.singular.form (singulars.get k) .typed ::
      plurals.toList.map fun p => slots.plural.form (p.get k) .typed,
      .ofTags generaProperty genera, none⟩) (fun k => ?_) fun k => ?_).imp fun vs hvs => ?_
  · cases plurals <;> rfl
  · rw [Draft.IsShort, List.forall_mem_cons, List.forall_mem_map]
    simp only [Slot.length_form_text]
    exact ⟨hshort _ List.mem_cons_self _ (singulars.get_mem k),
      fun p hp => hshort p (List.mem_cons_of_mem _ hp) _ (p.get_mem k)⟩
  · simpa only [Properties.ofTags_of_ne_nil generaProperty hne] using hvs

/-- A parenthesis in a spelling and the commas of a block separate nothing. -/
theorem creates_suffixed_bank :
    (Creator.sampleNoun .genusSuffix).Creates ⟨2, ["Bank (a), Bänk ~ Banken (m,f)"]⟩ fun vs =>
      vs.length = 2 ∧ ∃ v, vs[1]? = some v ∧ v.forms.map Form.text = ["Bank (a)", "Banken"] ∧
        v.properties = .singleton "genera" (.ofList ["f", "m"]) := by
  let singulars : Alternatives (List Char) 2 := ⟨["Bank (a)".toList], .inl rfl⟩
  let plurals : Alternatives (List Char) 2 := ⟨["Bänk".toList, "Banken".toList], .inr rfl⟩
  have hparts : Cell.IsWritable (parts singulars (some plurals)) :=
    ⟨by decide, ⟨plurals, by simp [parts], rfl⟩, by decide +kernel⟩
  have hmark : Cell.GenusMark (.ofList ["f", "m"]) " (m,f)".toList :=
    @Cell.GenusMark.block _ ["m", "f"] [] (by decide +kernel) rfl
  refine (creates_suffixed hparts (by decide +kernel) (by decide +kernel) (by decide +kernel) hmark
    (by decide +kernel)).imp fun vs ⟨hlength, hvs⟩ => ?_
  obtain ⟨v, hv, hforms, hproperties⟩ := hvs 1
  refine ⟨hlength, v, hv, ?_, hproperties⟩
  rw [hforms]
  rfl

/-! ## Nouns with an article before them -/

/-- A singular with an article before it, and the genus that the article tells. -/
structure Articled where
  article : String × String
  stem : List Char

namespace Articled

/-- An article and a stem, with a space between them. -/
def write (a : Articled) : List Char := a.article.1.toList ++ ' ' :: a.stem

/-- Whether a singular may be written: its article is known, and its stem is in one line. -/
structure IsEntry (a : Articled) : Prop where
  article : a.article ∈ Cell.articles
  stem : Text.IsEntry a.stem
  line : '\n' ∉ a.stem
  parens : '(' ∉ a.stem ∧ ')' ∉ a.stem

instance (a : Articled) : Decidable a.IsEntry :=
  decidable_of_iff (a.article ∈ Cell.articles ∧ Text.IsEntry a.stem ∧ '\n' ∉ a.stem ∧
      '(' ∉ a.stem ∧ ')' ∉ a.stem)
    ⟨fun ⟨harticle, hstem, hline, hparens⟩ => ⟨harticle, hstem, hline, hparens⟩,
      fun h => ⟨h.article, h.stem, h.line, h.parens⟩⟩

variable {a : Articled}

theorem isEntry_write (h : a.IsEntry) : Text.IsEntry a.write := by
  have harticles : ∀ e ∈ Cell.articles, Text.IsEntry e.1.toList := by decide
  exact (harticles _ h.article).append_space h.stem

theorem getLast?_write_ne (h : a.IsEntry) : a.write.getLast? ≠ some ')' :=
  Text.getLast?_append_space_ne h.stem.ne_nil h.parens.2 _

theorem takeArticle_write (h : a.IsEntry) :
    Cell.takeArticle a.write = .ok (a.stem, a.article.2) := by
  obtain ⟨harticle, hstem, hline, -⟩ := id h
  have hstart : Text.trimStart a.stem = a.stem :=
    Text.trimStart_eq_self_iff.2 (Text.trim_eq_self_iff.1 hstem.trim_eq).1
  have hblank : Text.isBlank ' ' = true := by decide
  rw [Cell.takeArticle, (isEntry_write h).trim_eq]
  obtain ⟨⟨article, genus⟩, stem⟩ := a
  have hcases : article = "de(n)" ∧ genus = "m" ∨ article = "dat" ∧ genus = "n" ∨
      article = "de" ∧ genus = "f" := by
    simpa [Cell.articles] using harticle
  rcases hcases with ⟨rfl, rfl⟩ | ⟨rfl, rfl⟩ | ⟨rfl, rfl⟩
  all_goals
    simp [write, Cell.articles, Cell.dropWord?, hstart, hstem.ne_nil, hline, hstem.trim_eq, hblank]

end Articled

/-- Whether a text may be written for a plural: it has one dash at most. -/
structure IsToken (t : List Char) : Prop where
  isEntry : Text.IsEntry t
  line : '\n' ∉ t
  parens : '(' ∉ t ∧ ')' ∉ t
  dashes : t.count '-' ≤ 1

instance (t : List Char) : Decidable (IsToken t) :=
  decidable_of_iff (Text.IsEntry t ∧ '\n' ∉ t ∧ ('(' ∉ t ∧ ')' ∉ t) ∧ t.count '-' ≤ 1)
    ⟨fun ⟨hentry, hline, hparens, hdashes⟩ => ⟨hentry, hline, hparens, hdashes⟩,
      fun h => ⟨h.isEntry, h.line, h.parens, h.dashes⟩⟩

/-- The plural that a token stands for: the token itself, or the stem in place of its dash. -/
def elide (stem token : List Char) : List Char × FormState :=
  match Text.cutAtFirst (· == '-') token with
  | some (before, _, after) => (before ++ stem ++ after, .generated)
  | none => (token, .typed)

theorem flatMap_eq_self {t stem : List Char} (h : '-' ∉ t) :
    (t.flatMap fun c => if c = '-' then stem else [c]) = t := by
  induction t with
  | nil => rfl
  | cons c t ih =>
    rw [List.mem_cons, not_or] at h
    rw [List.flatMap_cons, if_neg (Ne.symm h.1), ih h.2, List.singleton_append]

theorem expandPlural_eq_ok {token : List Char} (h : token.count '-' ≤ 1) (stem : List Char) :
    expandPlural token stem = .ok (elide stem token) := by
  unfold expandPlural elide
  cases hcut : Text.cutAtFirst (· == '-') token with
  | none =>
    have hdash : '-' ∉ token := fun hmem =>
      Bool.false_ne_true (Text.cutAtFirst_eq_none hcut '-' hmem).symm
    rw [List.count_eq_zero.2 hdash]
    rfl
  | some cut =>
    obtain ⟨before, c, after⟩ := cut
    obtain ⟨rfl, hc⟩ := Text.cutAtFirst_eq_some hcut
    obtain rfl : c = '-' := by simpa using hc
    rw [List.count_append, List.count_cons_self] at h
    have hbefore : '-' ∉ before := List.count_eq_zero.1 (by omega)
    have hafter : '-' ∉ after := List.count_eq_zero.1 (by omega)
    have hone : (before ++ '-' :: after).count '-' = 1 := by
      rw [List.count_append, List.count_cons_self]
      omega
    rw [hone, List.flatMap_append, List.flatMap_cons, flatMap_eq_self hbefore,
      flatMap_eq_self hafter, if_pos rfl]
    simp only [List.append_assoc]

section

variable {singulars : Alternatives Articled n} {plurals : Option (Alternatives (List Char) n)}

theorem isWritable_articled (hpos : 0 < n)
    (hfull : singulars.toList.length = n ∨ ∃ p ∈ plurals, p.toList.length = n)
    (hsingulars : ∀ a ∈ singulars.toList, a.IsEntry)
    (hplurals : ∀ p ∈ plurals, ∀ t ∈ p.toList, IsToken t) :
    Cell.IsWritable (parts (singulars.map Articled.write) plurals) := by
  refine ⟨hpos, ?_, List.forall_mem_cons.2 ⟨fun t ht => ?_, fun p hp t ht => ?_⟩⟩
  · rcases hfull with hfull | ⟨p, hp, hfull⟩
    · exact ⟨_, List.mem_cons_self, by simpa using hfull⟩
    · exact ⟨p, List.mem_cons_of_mem _ (Option.mem_toList.2 hp), hfull⟩
  · obtain ⟨a, ha, rfl⟩ := List.mem_map.1 ht
    exact Articled.isEntry_write (hsingulars a ha)
  · exact (hplurals p (Option.mem_toList.1 hp) t ht).isEntry

/-- No part of a cell with articles ends with a parenthesis, so none is taken for a block. -/
theorem getLast?_articled_ne (hsingulars : ∀ a ∈ singulars.toList, a.IsEntry)
    (hplurals : ∀ p ∈ plurals, ∀ t ∈ p.toList, IsToken t)
    (hwritable : Cell.IsWritable (parts (singulars.map Articled.write) plurals)) :
    ∀ part ∈ Cell.writeParts (parts (singulars.map Articled.write) plurals),
      part.getLast? ≠ some ')' := by
  intro part hpart
  obtain ⟨p, hp, rfl⟩ := List.mem_map.1 hpart
  refine Cell.getLast?_writePart_ne (hwritable.toList_ne_nil p) (hwritable.isEntry p hp) ?_
  intro t ht
  rcases List.mem_cons.1 hp with rfl | hp
  · obtain ⟨a, ha, rfl⟩ := List.mem_map.1 ht
    exact Articled.getLast?_write_ne (hsingulars a ha)
  · have htoken := hplurals p (Option.mem_toList.1 hp) t ht
    exact fun hlast => htoken.parens.2 (List.mem_of_getLast? hlast)

/-- Every variant of a noun has the stem and the genus that are written for it, and its plural is
made with its own stem. -/
theorem creates_articled (hpos : 0 < n)
    (hfull : singulars.toList.length = n ∨ ∃ p ∈ plurals, p.toList.length = n)
    (hsingulars : ∀ a ∈ singulars.toList, a.IsEntry)
    (hplurals : ∀ p ∈ plurals, ∀ t ∈ p.toList, IsToken t)
    (hshort : ∀ k, (singulars.get k).stem.length ≤ maxFormLength ∧
      ∀ p ∈ plurals, (elide (singulars.get k).stem (p.get k)).1.length ≤ maxFormLength)
    {row : Row} (hrow : row.cell column = String.ofList
      (Cell.joinParts (Cell.writeParts (parts (singulars.map Articled.write) plurals)))) :
    (Creator.mk tag column (.noun .articlePrefix) (some slots)).Creates row fun vs =>
      vs.length = n ∧ ∀ k : Fin n, ∃ v, vs[(k : Nat)]? = some v ∧
        v.forms = (slots.singular.form (singulars.get k).stem .typed :: plurals.toList.map fun p =>
          slots.plural.form (elide (singulars.get k).stem (p.get k)).1
            (elide (singulars.get k).stem (p.get k)).2).map
              (fun form => { form with variantId := some v.id }) ∧
        v.properties = .singleton generaProperty (.singleton (singulars.get k).article.2) := by
  have hwritable := isWritable_articled hpos hfull hsingulars hplurals
  have hends := getLast?_articled_ne hsingulars hplurals hwritable
  obtain ⟨before, last, hwritten, hsize, hisPart⟩ :=
    hwritable.exists_eq_concat (length_parts (singulars.map Articled.write) plurals)
  rw [hwritten] at hends
  have hread : takeApart .articlePrefix (Cell.joinParts (before ++ [last]) ++ []) =
      .ok (before ++ [last], ∅) := by
    rw [List.append_nil, takeApart, Cell.Parts.ofCell_plain hsize hisPart (hends last (by simp))]
    rfl
  rw [← hwritten] at hread
  rw [← List.append_nil (Cell.joinParts _)] at hrow
  refine Creator.creates_written (c := ⟨tag, column, .noun .articlePrefix, some slots⟩) rfl
    hwritable [] hread hrow (fun k => ⟨slots.singular.form (singulars.get k).stem .typed ::
      plurals.toList.map fun p => slots.plural.form (elide (singulars.get k).stem (p.get k)).1
        (elide (singulars.get k).stem (p.get k)).2,
      .ofTags generaProperty (.singleton (singulars.get k).article.2), none⟩)
    (fun k => ?_) fun k => ?_
  · have harticle := Articled.takeArticle_write (hsingulars _ (singulars.get_mem k))
    cases plurals with
    | none =>
      show ArticleMakes slots [(singulars.map Articled.write).get k] _
      rw [Alternatives.get_map]
      exact ⟨_, _, harticle, rfl⟩
    | some p =>
      have htoken := hplurals p rfl _ (p.get_mem k)
      show ArticleMakes slots [(singulars.map Articled.write).get k, p.get k] _
      rw [Alternatives.get_map]
      exact ⟨_, _, harticle, _, _, expandPlural_eq_ok htoken.dashes _, rfl⟩
  · rw [Draft.IsShort, List.forall_mem_cons, List.forall_mem_map]
    simp only [Slot.length_form_text]
    exact ⟨(hshort k).1, fun p hp => (hshort k).2 p (Option.mem_toList.1 hp)⟩

end

/-- A plural that is shared has another stem in each variant. -/
theorem creates_articled_shared :
    (Creator.sampleNoun .articlePrefix).Creates ⟨2, ["de(n) Disch ~ dat Huus, -en"]⟩ fun vs =>
      vs.length = 2 ∧
      (∃ v, vs[0]? = some v ∧ v.forms.map Form.text = ["Disch", "Dischen"] ∧
        v.properties = .singleton "genera" (.singleton "m")) ∧
      ∃ v, vs[1]? = some v ∧ v.forms.map Form.text = ["Huus", "Huusen"] ∧
        v.properties = .singleton "genera" (.singleton "n") := by
  let singulars : Alternatives Articled 2 :=
    ⟨[⟨("de(n)", "m"), "Disch".toList⟩, ⟨("dat", "n"), "Huus".toList⟩], .inr rfl⟩
  let plurals : Alternatives (List Char) 2 := ⟨["-en".toList], .inl rfl⟩
  have hsingulars : ∀ a ∈ singulars.toList, a.IsEntry := by decide +kernel
  have hplurals : ∀ p ∈ some plurals, ∀ t ∈ p.toList, IsToken t := by decide +kernel
  refine (creates_articled (by decide) (.inl rfl) hsingulars hplurals (by decide +kernel)
    (by decide +kernel)).imp fun vs ⟨hlength, hvs⟩ => ?_
  refine ⟨hlength, ?_, ?_⟩
  · obtain ⟨v, hv, hforms, hproperties⟩ := hvs 0
    exact ⟨v, hv, by rw [hforms]; rfl, hproperties⟩
  · obtain ⟨v, hv, hforms, hproperties⟩ := hvs 1
    exact ⟨v, hv, by rw [hforms]; rfl, hproperties⟩

end Noun

end Wordbook
