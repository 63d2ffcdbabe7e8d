import Wordbook.Proofs.Written

/-!
# Verb cells

What is written in a verb cell is what is read from it: the infinitives, with or
without the other principal parts, and the auxiliaries in both of their places.

* `Verb.Participle.takeLeadingAuxiliary_write`: an auxiliary before a participle;
* `Verb.creates_conjugated`: the variants of a verb cell.
-/

namespace Wordbook

open Creation

namespace Cell

open Text (isBlank isBlankText)

section

variable {listed : List (String × String)}

theorem isName_auxiliary {a : String × String} (ha : a ∈ auxiliaries) : IsName a.1.toList := by
  have hnames : ∀ a ∈ auxiliaries, IsName a.1.toList := by decide +kernel
  exact hnames a ha

theorem isName_listed (h : ∀ a ∈ listed, a ∈ auxiliaries) :
    ∀ name ∈ listed.map fun a => a.1.toList, IsName name := by
  intro name hname
  obtain ⟨a, ha, rfl⟩ := List.mem_map.1 hname
  exact isName_auxiliary (h a ha)

theorem lookup_auxiliary {a : String × String} (ha : a ∈ auxiliaries) :
    auxiliaries.lookup (String.ofList a.1.toList) = some a.2 := by
  have hlookup : ∀ a ∈ auxiliaries,
      auxiliaries.lookup (String.ofList a.1.toList) = some a.2 := by decide +kernel
  exact hlookup a ha

/-- Some auxiliaries in a block; nothing is written for none. -/
def writeAuxiliaries (listed : List (String × String)) : List Char :=
  match listed with
  | [] => []
  | listed => writeBlock (joinNames [' '] (listed.map fun a => a.1.toList))

theorem takeAuxiliaries_block (hne : listed ≠ []) (h : ∀ a ∈ listed, a ∈ auxiliaries)
    {last : List Char} (hlast : IsPart last) :
    takeAuxiliaries (last ++ writeBlock (joinNames [' '] (listed.map fun a => a.1.toList))) =
      .ok (last, .ofList (listed.map Prod.snd)) := by
  have hnames := isName_listed h
  rw [takeAuxiliaries, trailingBlock_writeBlock (paren_not_mem_joinNames (by decide) hnames)
    hlast.trimEnd_eq]
  dsimp only
  rw [names_joinNames (by decide) (by simpa using hne) hnames]
  refine bind_eq_ok_iff.2 ⟨listed.map Prod.snd, mapM_eq_ok_iff.2 ?_, rfl⟩
  rw [List.forall₂_map_left_iff, List.forall₂_map_right_iff, List.forall₂_same]
  intro a ha
  rw [auxiliaryVerb, lookup_auxiliary (h a ha)]

/-- The auxiliaries are read off a cell, if some are written behind it. -/
theorem takeTags_auxiliaries (h : ∀ a ∈ listed, a ∈ auxiliaries) {before : List (List Char)}
    {last : List Char} {expected : Nat} (hsize : before = [] ∨ before.length + 1 = expected)
    (hparts : ∀ part ∈ before ++ [last], IsPart part) (hend : last.getLast? ≠ some ')') :
    takeTags (joinParts (before ++ [last]) ++ writeAuxiliaries listed) expected takeAuxiliaries =
      .ok (before ++ [last], .ofList (listed.map Prod.snd)) := by
  have hlast : IsPart last := hparts last (by simp)
  cases listed with
  | nil =>
    have hnone : takeAuxiliaries last = .ok (last, ∅) := by
      rw [takeAuxiliaries, trailingBlock_eq_none hlast.trimEnd_eq hend]
      dsimp only
      rw [hlast.trim_eq]
    rw [writeAuxiliaries, List.append_nil]
    exact takeTags_eq_ok (Parts.ofCell_plain hsize hparts hend) hnone
  | cons a rest =>
    have hblock := takeAuxiliaries_block (List.cons_ne_nil a rest) h hlast
    exact takeTags_eq_ok (Parts.ofCell_block hsize hparts
      (paren_not_mem_joinNames (by decide) (isName_listed h))) hblock

end

end Cell

namespace Verb

variable {tag : String} {column : Nat} {slots : VerbSlots} {n : Nat}

/-- Whether a text may be written for a form of a verb. -/
structure IsWord (t : List Char) : Prop where
  isEntry : Text.IsEntry t
  parens : '(' ∉ t ∧ ')' ∉ t
  length_le : t.length ≤ maxFormLength

instance (t : List Char) : Decidable (IsWord t) :=
  decidable_of_iff (Text.IsEntry t ∧ ('(' ∉ t ∧ ')' ∉ t) ∧ t.length ≤ maxFormLength)
    ⟨fun ⟨hentry, hparens, hlength⟩ => ⟨hentry, hparens, hlength⟩,
      fun h => ⟨h.isEntry, h.parens, h.length_le⟩⟩

/-- A participle, perhaps with an auxiliary that is written before it. -/
structure Participle where
  marker : Option (String × String)
  text : List Char

namespace Participle

/-- A participle behind its auxiliary, with a space between them. -/
def write (p : Participle) : List Char :=
  match p.marker with
  | some (word, _) => word.toList ++ ' ' :: p.text
  | none => p.text

/-- Whether a participle may be written: what looks like an auxiliary before it is one. -/
structure IsEntry (p : Participle) : Prop where
  isWord : IsWord p.text
  marker : ∀ a ∈ p.marker, a ∈ Cell.auxiliaries ∧ a.1 ∈ Cell.leadingAuxiliaries
  unmarked : p.marker = none → ∀ word ∈ Cell.leadingAuxiliaries, ¬(word.toList ++ [' ']) <+: p.text

variable {p : Participle}

theorem isEntry_write (h : p.IsEntry) : Text.IsEntry p.write ∧ ')' ∉ p.write := by
  obtain ⟨⟨hentry, hparens, -⟩, hmarker, -⟩ := h
  obtain ⟨_ | ⟨word, verb⟩, text⟩ := p
  · exact ⟨hentry, hparens.2⟩
  · obtain ⟨hknown, -⟩ := hmarker _ rfl
    have hname := Cell.isName_auxiliary hknown
    refine ⟨hname.isEntry.append_space hentry, ?_⟩
    rw [write, List.mem_append, List.mem_cons, not_or, not_or]
    exact ⟨hname.not_mem (by decide), by decide, hparens.2⟩

theorem takeLeadingAuxiliary_write (h : p.IsEntry) :
    Cell.takeLeadingAuxiliary p.write = (p.text, p.marker.map Prod.snd) := by
  have htrim := (isEntry_write h).1.trim_eq
  obtain ⟨⟨hentry, -, -⟩, hmarker, hunmarked⟩ := h
  obtain ⟨_ | ⟨word, verb⟩, text⟩ := p
  · rw [Cell.takeLeadingAuxiliary, htrim]
    dsimp only [write]
    cases hcut : Text.cutAtFirst (· == ' ') text with
    | none => rfl
    | some cut =>
      obtain ⟨first, c, rest⟩ := cut
      obtain ⟨rfl, hc⟩ := Text.cutAtFirst_eq_some hcut
      obtain rfl : c = ' ' := by simpa using hc
      have hunknown : String.ofList first ∉ Cell.leadingAuxiliaries := fun hmem =>
        hunmarked rfl _ hmem ⟨rest, by simp⟩
      simp [hunknown]
  · obtain ⟨hknown, hleading⟩ := hmarker _ rfl
    have hspace : ∀ c ∈ word.toList, (c == ' ') = false := fun c hc => by
      have hblank := (Cell.isName_auxiliary hknown).not_blank hc
      rw [beq_eq_false_iff_ne]
      rintro rfl
      exact absurd hblank (by decide)
    rw [Cell.takeLeadingAuxiliary, htrim]
    dsimp only [write]
    rw [Text.cutAtFirst_append_cons hspace rfl]
    dsimp only
    rw [hentry.trim_eq, Cell.lookup_auxiliary hknown]
    simp [hleading, hentry.ne_nil]

end Participle

/-! ## Principal parts -/

/-- What is written for a verb besides its infinitives. -/
structure Principal (n : Nat) where
  presents : Alternatives (List Char) n
  preterites : Alternatives (List Char) n
  participles : Alternatives Participle n

/-- Whether all principal parts may be written. -/
structure Principal.IsEntry (o : Principal n) : Prop where
  presents : ∀ t ∈ o.presents.toList, IsWord t
  preterites : ∀ t ∈ o.preterites.toList, IsWord t
  participles : ∀ p ∈ o.participles.toList, p.IsEntry

/-- The parts of a verb cell: the infinitives, and the principal parts if they are given. -/
def parts (infs : Alternatives (List Char) n) (others : Option (Principal n)) :
    List (Alternatives (List Char) n) :=
  infs :: others.toList.flatMap fun o =>
    [o.presents, o.preterites, o.participles.map Participle.write]

/-- The forms of the principal parts at an index. -/
def Principal.forms (o : Principal n) (slots : VerbSlots) (k : Fin n) : List Form :=
  [slots.present.form (o.presents.get k) .typed, slots.preterite.form (o.preterites.get k) .typed,
    slots.participle.form (o.participles.get k).text .typed]

/-- The verb of the auxiliary that is written before a participle, if there is one. -/
def Principal.auxiliary? (o : Principal n) (k : Fin n) : Option String :=
  (o.participles.get k).marker.map Prod.snd

section

variable {infs : Alternatives (List Char) n} {others : Option (Principal n)}
  {listed : List (String × String)}

theorem isEntry_parts (hinfs : ∀ t ∈ infs.toList, IsWord t) (hothers : ∀ o ∈ others, o.IsEntry) :
    ∀ p ∈ parts infs others, ∀ t ∈ p.toList, Text.IsEntry t ∧ ')' ∉ t := by
  have hword {t : List Char} (h : IsWord t) : Text.IsEntry t ∧ ')' ∉ t :=
    ⟨h.isEntry, h.parens.2⟩
  intro p hp t ht
  rcases List.mem_cons.1 hp with rfl | hp
  · exact hword (hinfs t ht)
  · obtain ⟨o, ho, hp⟩ := List.mem_flatMap.1 hp
    obtain ⟨hpresents, hpreterites, hparticiples⟩ := hothers o (Option.mem_toList.1 ho)
    have hcases : p = o.presents ∨ p = o.preterites ∨ p = o.participles.map Participle.write := by
      simpa using hp
    rcases hcases with rfl | rfl | rfl
    · exact hword (hpresents t ht)
    · exact hword (hpreterites t ht)
    · obtain ⟨participle, hparticiple, rfl⟩ := List.mem_map.1 ht
      exact Participle.isEntry_write (hparticiples participle hparticiple)

theorem length_infinitives_le (slots : VerbSlots) {t : List Char} (h : t.length ≤ maxFormLength) :
    ∀ f ∈ infinitives slots t, f.text.length ≤ maxFormLength := by
  have hjoined : (t.filter (· != '|')).length ≤ maxFormLength :=
    Nat.le_trans (List.length_filter_le ..) h
  unfold infinitives
  split <;> simp [h, hjoined]

theorem allAuxiliaries_ofList (verbs : List String) (marker : Option String) :
    allAuxiliaries (.ofList verbs) marker = .ofList (verbs ++ marker.toList) := by
  cases marker with
  | none => rw [Option.toList_none, List.append_nil, allAuxiliaries]
  | some verb => simp only [allAuxiliaries, SortedSet.ofList, Option.toList_some, List.foldl_append,
      List.foldl_cons, List.foldl_nil]

theorem length_parts (infs : Alternatives (List Char) n) (others : Option (Principal n)) :
    (parts infs others).length = 1 ∨ (parts infs others).length = fullSize := by
  cases others with
  | none => exact .inl rfl
  | some o => exact .inr rfl

/-- The variant at an index as it is written. -/
def draft (slots : VerbSlots) (infs : Alternatives (List Char) n) (others : Option (Principal n))
    (listed : List (String × String)) (k : Fin n) : Draft where
  forms := infinitives slots (infs.get k) ++ others.toList.flatMap fun o => o.forms slots k
  properties := .ofTags auxiliariesProperty (.ofList
    (listed.map Prod.snd ++ (others.bind fun o => o.auxiliary? k).toList))
  dialectIds := none

theorem makes_draft (hothers : ∀ o ∈ others, o.IsEntry) (k : Fin n) :
    Makes slots (.ofList (listed.map Prod.snd)) ((parts infs others).map (·.get k))
      (draft slots infs others listed k) := by
  cases others with
  | none => simp [Makes, parts, draft]
  | some o =>
    have hparticiple := (hothers o rfl).participles _ (o.participles.get_mem k)
    have hleading := Participle.takeLeadingAuxiliary_write hparticiple
    rw [← Alternatives.get_map Participle.write] at hleading
    refine ⟨_, _, hleading, ?_⟩
    rw [allAuxiliaries_ofList]
    rfl

theorem isShort_draft (hinfs : ∀ t ∈ infs.toList, IsWord t) (hothers : ∀ o ∈ others, o.IsEntry)
    (k : Fin n) : (draft slots infs others listed k).IsShort := by
  refine List.forall_mem_append.2 ⟨length_infinitives_le slots (hinfs _ (infs.get_mem k)).length_le,
    fun f hf => ?_⟩
  obtain ⟨o, ho, hf⟩ := List.mem_flatMap.1 hf
  obtain ⟨hpresents, hpreterites, hparticiples⟩ := hothers o (Option.mem_toList.1 ho)
  have hpresent := (hpresents _ (o.presents.get_mem k)).length_le
  have hpreterite := (hpreterites _ (o.preterites.get_mem k)).length_le
  have hparticiple := (hparticiples _ (o.participles.get_mem k)).isWord.length_le
  have hforms : ∀ f ∈ o.forms slots k, f.text.length ≤ maxFormLength := by
    simp [Principal.forms, hpresent, hpreterite, hparticiple]
  exact hforms f hf

/-- Every variant of a verb has the forms that are written for it. Its auxiliaries are those behind
the cell and the one before its participle. -/
theorem creates_conjugated (hpos : 0 < n) (hfull : ∃ p ∈ parts infs others, p.toList.length = n)
    (hinfs : ∀ t ∈ infs.toList, IsWord t) (hothers : ∀ o ∈ others, o.IsEntry)
    (hlisted : ∀ a ∈ listed, a ∈ Cell.auxiliaries) {row : Row}
    (hrow : row.cell column = String.ofList
      (Cell.joinParts (Cell.writeParts (parts infs others)) ++ Cell.writeAuxiliaries listed)) :
    (Creator.mk tag column .verb (some slots)).Creates row fun vs =>
      vs.length = n ∧ ∀ k : Fin n, ∃ v, vs[(k : Nat)]? = some v ∧
        v.forms = (infinitives slots (infs.get k) ++
          others.toList.flatMap fun o => o.forms slots k).map
            (fun form => { form with variantId := some v.id }) ∧
        v.properties = .ofTags auxiliariesProperty (.ofList
          (listed.map Prod.snd ++ (others.bind fun o => o.auxiliary? k).toList)) := by
  have hentries := isEntry_parts hinfs hothers
  have hwritable : Cell.IsWritable (parts infs others) :=
    ⟨hpos, hfull, fun p hp t ht => (hentries p hp t ht).1⟩
  have hends : ∀ part ∈ Cell.writeParts (parts infs others), part.getLast? ≠ some ')' := by
    intro part hpart
    obtain ⟨p, hp, rfl⟩ := List.mem_map.1 hpart
    refine Cell.getLast?_writePart_ne (hwritable.toList_ne_nil p) (hwritable.isEntry p hp) ?_
    exact fun t ht hlast => (hentries p hp t ht).2 (List.mem_of_getLast? hlast)
  obtain ⟨before, last, hwritten, hsize, hisPart⟩ :=
    hwritable.exists_eq_concat (length_parts infs others)
  rw [hwritten] at hends
  have hread := Cell.takeTags_auxiliaries hlisted hsize hisPart (hends last (by simp))
  rw [← hwritten] at hread
  exact Creator.creates_written (c := ⟨tag, column, .verb, some slots⟩) rfl hwritable _ hread hrow
    (draft slots infs others listed) (makes_draft hothers) (isShort_draft hinfs hothers)

end

/-- A bar makes another form of an infinitive, and both places of auxiliaries count. -/
theorem creates_conjugated_sample :
    (Creator.mk "v" 0 .verb (some ⟨⟨1, "infinitive", 0⟩, ⟨2, "infinitive_divided", 1⟩,
      ⟨3, "present_3sg", 2⟩, ⟨4, "preterite_3sg", 3⟩, ⟨5, "participle", 4⟩⟩)).Creates
        ⟨2, ["an|kamen ~ ankeken, kummt, keem, is ankamen (hett, hebben)"]⟩ fun vs =>
      vs.length = 2 ∧
      (∃ v, vs[0]? = some v ∧
        v.forms.map Form.text = ["ankamen", "an|kamen", "kummt", "keem", "ankamen"] ∧
        v.properties = .ofTags "auxiliaries" (.ofList ["hevven", "wesen"])) ∧
      ∃ v, vs[1]? = some v ∧ v.forms.map Form.text = ["ankeken", "kummt", "keem", "ankamen"] := by
  let infs : Alternatives (List Char) 2 := ⟨["an|kamen".toList, "ankeken".toList], .inr rfl⟩
  let others : Principal 2 := ⟨⟨["kummt".toList], .inl rfl⟩, ⟨["keem".toList], .inl rfl⟩,
    ⟨[⟨some ("is", "wesen"), "ankamen".toList⟩], .inl rfl⟩⟩
  have hinfs : ∀ t ∈ infs.toList, IsWord t := by decide +kernel
  have hothers : ∀ o ∈ some others, o.IsEntry := by
    rintro _ ⟨⟩
    refine ⟨by decide +kernel, by decide +kernel, List.forall_mem_singleton.2 ?_⟩
    exact ⟨by decide +kernel, by decide +kernel, nofun⟩
  have hlisted : ∀ a ∈ [("hett", "hevven"), ("hebben", "hevven")], a ∈ Cell.auxiliaries := by
    decide +kernel
  refine (creates_conjugated (by decide) ⟨infs, List.mem_cons_self, rfl⟩ hinfs hothers hlisted
    (by decide +kernel)).imp fun vs ⟨hlength, hvs⟩ => ⟨hlength, ?_, ?_⟩
  · obtain ⟨v, hv, hforms, hproperties⟩ := hvs 0
    refine ⟨v, hv, by rw [hforms]; rfl, ?_⟩
    rw [hproperties]
    decide +kernel
  · obtain ⟨v, hv, hforms, -⟩ := hvs 1
    exact ⟨v, hv, by rw [hforms]; rfl⟩

end Verb

end Wordbook
