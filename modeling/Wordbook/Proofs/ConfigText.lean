import Wordbook.Proofs.JsonRecord
import Wordbook.Proofs.Report

/-!
# Configurations that are written and read again

A configuration that has been read can be written out, with every default filled
in, and is read as the same one again.

* `Config.Fits`, `Config.fits_of_ofText`: the numbers of a configuration that
  has been read;
* `Grammar.ofMembers?_eq`: a grammar among the fields of its creator;
* `Config.faithful`: what is written is read back;
* `Config.ofText_writtenAs`: it passes the check again.
-/

namespace Wordbook

open Json

/-- The position of a slot is a number of 32 bits. -/
def Slot.Fits (s : Slot) : Prop := s.position ≤ UInt32.size - 1

def PosConfig.Fits (p : PosConfig) : Prop := ∀ s ∈ p.slots, s.Fits

def ReferenceConfig.Fits (r : ReferenceConfig) : Prop := ∀ p ∈ r.partsOfSpeech, p.Fits

def CreatorConfig.Fits (c : CreatorConfig) : Prop := ∀ k ∈ c.columns, k ≤ Reader.maxWord

def ProviderConfig.Fits (p : ProviderConfig) : Prop := ∀ c ∈ p.creators, c.Fits

/-- The numbers of a configuration are of 64 bits, and those of its slots of 32. -/
structure Config.Fits (c : Config) : Prop where
  columnCount : c.columnCount ≤ Reader.maxWord
  minColumnCount : c.minColumnCount ≤ Reader.maxWord
  skipLines : ∀ k ∈ c.skipLines, k ≤ Reader.maxWord
  posColumn : c.posColumn ≤ Reader.maxWord
  reference : c.reference.Fits
  providers : ∀ p ∈ c.providers, p.Fits

theorem Slot.fits_of_ofJson? : Ensures ofJson? Slot.Fits := by
  intro v s h
  simp only [ofJson?, Option.bind_eq_bind, Option.bind_eq_some_iff, Option.pure_def,
    Option.some.injEq] at h
  obtain ⟨_, -, _, -, _, -, position, hposition, rfl⟩ := h
  exact (ensures_upTo (UInt32.size - 1)).of_required hposition

theorem PosConfig.fits_of_ofJson? : Ensures ofJson? PosConfig.Fits := by
  intro v p h
  simp only [ofJson?, Option.bind_eq_bind, Option.bind_eq_some_iff, Option.pure_def,
    Option.some.injEq] at h
  obtain ⟨_, -, _, -, _, -, slots, hslots, rfl⟩ := h
  exact (ensures_list Slot.fits_of_ofJson?).of_defaulted (List.forall_mem_nil _) hslots

theorem ReferenceConfig.fits_of_ofJson? : Ensures ofJson? ReferenceConfig.Fits := by
  intro v r h
  simp only [ofJson?, Option.bind_eq_bind, Option.bind_eq_some_iff, Option.pure_def,
    Option.some.injEq] at h
  obtain ⟨_, -, _, -, pos, hpos, rfl⟩ := h
  exact (ensures_list PosConfig.fits_of_ofJson?).of_defaulted (List.forall_mem_nil _) hpos

namespace Config

/-- The numbers of a configuration that is read have passed their readers. -/
theorem fits_of_ofText {t : List Char} {c : Config} (h : ofText t = .ok c) : c.Fits := by
  have hc := isSound_of_ofText h
  have hcount := columnCount_le_of_ofText h
  have hread : (∀ k ∈ c.skipLines, k ≤ Reader.maxWord) ∧ c.reference.Fits := by
    unfold ofText at h
    split at h
    · rename_i hread
      obtain ⟨rfl, -⟩ := check_eq_ok_iff.1 h
      obtain ⟨v, -, hv⟩ := Option.bind_eq_some_iff.1 hread
      simp only [ofJson?, Option.bind_eq_bind, Option.bind_eq_some_iff, Option.pure_def,
        Option.some.injEq] at hv
      obtain ⟨_, -, _, -, _, -, _, -, _, hskip, _, -, _, hreference, _, -, rfl⟩ := hv
      exact ⟨(ensures_set ensures_count).of_defaulted (List.forall_mem_nil _) hskip,
        ReferenceConfig.fits_of_ofJson?.of_required hreference⟩
    · cases h
  refine ⟨hcount, hc.minColumnCount_le.trans hcount, hread.1, hc.posColumn_lt.le.trans hcount,
    hread.2, fun p hp cc hcc k hk => ?_⟩
  exact ((hc.providers p hp).columns cc hcc k hk).le.trans hcount

end Config

theorem Slot.keysOnce (s : Slot) : s.toJson.KeysOnce := by
  simp [Slot.toJson]

theorem Slot.plain {s : Slot} (h : s.Fits) {n : Nat} : Plain (n + 1) s.toJson := by
  have hposition : s.position ≤ Reader.maxWord := h.trans (by decide)
  refine .object ?_
  simp only [List.forall_mem_cons]
  exact ⟨plain_ofInt64 _, .string _, plain_ofCount hposition, nofun⟩

theorem Slot.readAs {s : Slot} (hfits : s.Fits) : s.toJson.ReadAs Slot.ofJson? s := by
  intro w hw
  obtain ⟨r, hr, h⟩ := hw.exists_record ["id", "name", "position"]
  simp only [List.forall_mem_cons] at h
  obtain ⟨hid, hname, hposition, -⟩ := h
  simp only [ofJson?, hr, hid.required_eq (readAs_int64 _), hname.required_eq (readAs_text _),
    hposition.required_eq (readAs_upTo hfits), Option.bind_eq_bind, Option.bind_some,
    Option.pure_def]

theorem Language.keysOnce (l : Language) : l.toJson.KeysOnce := by
  simp [Language.toJson]

theorem Language.plain (l : Language) {n : Nat} : Plain (n + 1) l.toJson := by
  refine .object ?_
  simp only [List.forall_mem_cons]
  exact ⟨plain_ofInt64 _, .string _, .string _, nofun⟩

theorem Language.readAs (l : Language) : l.toJson.ReadAs Language.ofJson? l := by
  intro w hw
  obtain ⟨r, hr, h⟩ := hw.exists_record ["id", "code", "name"]
  simp only [List.forall_mem_cons] at h
  obtain ⟨hid, hcode, hname, -⟩ := h
  simp only [ofJson?, hr, hid.required_eq (readAs_int64 _), hcode.required_eq (readAs_text _),
    hname.defaulted_eq (readAs_text _), Option.bind_eq_bind, Option.bind_some, Option.pure_def]

theorem PosConfig.keysOnce (p : PosConfig) : p.toJson.KeysOnce := by
  simp [PosConfig.toJson, Slot.keysOnce]

theorem PosConfig.plain {p : PosConfig} (h : p.Fits) {n : Nat} : Plain (n + 3) p.toJson := by
  refine .object ?_
  simp only [List.forall_mem_cons]
  exact ⟨plain_ofInt64 _, .string _, plain_ofList fun s hs => Slot.plain (h s hs), nofun⟩

theorem PosConfig.readAs {p : PosConfig} (hfits : p.Fits) :
    p.toJson.ReadAs PosConfig.ofJson? p := by
  intro w hw
  obtain ⟨r, hr, h⟩ := hw.exists_record ["id", "tag", "slots"]
  simp only [List.forall_mem_cons] at h
  obtain ⟨hid, htag, hslots, -⟩ := h
  have hlist := readAs_list fun s hs => Slot.readAs (hfits s hs)
  simp only [ofJson?, hr, hid.required_eq (readAs_int64 _), htag.required_eq (readAs_text _),
    hslots.defaulted_eq hlist, Option.bind_eq_bind, Option.bind_some, Option.pure_def]

theorem ReferenceConfig.keysOnce (r : ReferenceConfig) : r.toJson.KeysOnce := by
  simp [ReferenceConfig.toJson, Language.keysOnce, PosConfig.keysOnce]

theorem ReferenceConfig.plain {r : ReferenceConfig} (h : r.Fits) {n : Nat} :
    Plain (n + 5) r.toJson := by
  refine .object ?_
  simp only [List.forall_mem_cons]
  exact ⟨plain_ofList fun l _ => l.plain, plain_ofList fun p hp => PosConfig.plain (h p hp), nofun⟩

theorem ReferenceConfig.readAs {r : ReferenceConfig} (hfits : r.Fits) :
    r.toJson.ReadAs ReferenceConfig.ofJson? r := by
  intro w hw
  obtain ⟨fields, hfields, h⟩ := hw.exists_record ["languages", "partsOfSpeech"]
  simp only [List.forall_mem_cons] at h
  obtain ⟨hlanguages, hpos, -⟩ := h
  have hlist := readAs_list fun p hp => PosConfig.readAs (hfits p hp)
  simp only [ofJson?, hfields, hlanguages.defaulted_eq (readAs_list fun l _ => l.readAs),
    hpos.defaulted_eq hlist, Option.bind_eq_bind, Option.bind_some, Option.pure_def]

/-! ## Creators -/

theorem NounStyle.readAs (style : NounStyle) :
    (Json.string style.name).ReadAs NounStyle.ofJson? style := by
  cases style <;> exact readAs_scalar nofun nofun rfl

theorem Grammar.readAs_kind {kind : String} (h : kind ∈ kinds) :
    (Json.string kind).ReadAs kind? kind :=
  readAs_scalar nofun nofun (if_pos (List.contains_iff_mem.2 h))

/-- A grammar is found among the fields of a creator that are not the creator's own. -/
theorem Grammar.ofMembers?_eq (g : Grammar) {members : List (String × Json)}
    (hnodup : (members.map Prod.fst).Nodup)
    (h : ∀ m ∈ g.toMembers, Record.Gives ⟨false, members⟩ m.1 m.2) :
    ofMembers? members = some g := by
  have honce := namesOnce_of_nodup hnodup
  cases g with
  | noun style =>
    simp only [toMembers, List.forall_mem_cons] at h
    obtain ⟨hkind, hstyle, -⟩ := h
    simp [ofMembers?, honce, hkind.required_eq (readAs_kind (by decide)),
      hstyle.defaulted_eq style.readAs]
  | verb | misc =>
    simp only [toMembers, List.forall_mem_cons] at h
    simp [ofMembers?, honce, h.1.required_eq (readAs_kind (by decide))]
  | multi separator allowMultiWord =>
    simp only [toMembers, List.forall_mem_cons] at h
    obtain ⟨hkind, hseparator, hallow, -⟩ := h
    simp [ofMembers?, honce, hkind.required_eq (readAs_kind (by decide)),
      hseparator.defaulted_eq (readAs_char _), hallow.defaulted_eq (readAs_bool _)]

namespace CreatorConfig

theorem keysOnce (c : CreatorConfig) : c.toJson.KeysOnce := by
  rw [toJson]
  cases c.grammar <;> simp [Grammar.toMembers]

theorem plain {c : CreatorConfig} (h : c.Fits) {n : Nat} : Plain (n + 1) c.toJson := by
  have hcolumn : Plain n (ofCount c.column) := plain_ofCount (h _ List.mem_cons_self)
  have hdialects : Plain n (ofOption ofCount c.dialectColumn) := by
    refine plain_ofOption fun k hk => plain_ofCount (h k ?_)
    exact List.mem_cons_of_mem _ (Option.mem_toList.2 hk)
  refine .object ?_
  cases c.grammar <;> simp [Grammar.toMembers, Plain.string, Plain.bool, hcolumn, hdialects]

theorem notMem_ownFields {g : Grammar} : ∀ m ∈ g.toMembers, m.1 ∉ ownFields := by
  cases g <;> simp [Grammar.toMembers, ownFields]

theorem readAs {c : CreatorConfig} (hfits : c.Fits) : c.toJson.ReadAs ofJson? c := by
  intro w hw
  obtain ⟨ns, rfl, hns⟩ := Rearranged.exists_object hw
  have hnodup : (ns.map Prod.fst).Nodup := (keysOnce_object_iff.1 hw.keysOnce_right).1
  have hrest : ((grammarMembers ns).map Prod.fst).Nodup :=
    hnodup.sublist (List.filter_sublist.map Prod.fst)
  have hgrammar : Grammar.ofMembers? (grammarMembers ns) = some c.grammar := by
    refine c.grammar.ofMembers?_eq hrest fun m hm => ?_
    obtain ⟨v, hv, hmv⟩ := hns m (by simp [hm])
    refine Record.gives_of_mem hrest (List.mem_filter.2 ⟨hv, ?_⟩) hmv
    simpa using notMem_ownFields m hm
  -- What the grammar passes over is readable too, for there is nothing else.
  have hreadable : (grammarMembers ns).all fun m => m.2.isReadable && m.2.depth ≤ maxDepth := by
    obtain - | - | - | - | - | hplain := (plain hfits (n := 0)).rearrange hw
    refine List.all_eq_true.2 fun m hm => ?_
    have hm := hplain m (List.mem_of_mem_filter hm)
    simp [hm.isReadable, Nat.le_zero.1 hm.depth_le]
  have hgives := Rearranged.gives hw
  simp only [List.cons_append, List.nil_append, List.forall_mem_cons,
    List.forall_mem_append] at hgives
  obtain ⟨hpos, -, hcolumn, hdialects, -⟩ := hgives
  have hoption := readAs_option rfl fun k (hk : k ∈ c.dialectColumn) =>
    readAs_count (hfits k (List.mem_cons_of_mem _ (Option.mem_toList.2 hk)))
  simp [ofJson?, namesOnce_of_nodup hnodup, hreadable, hgrammar, hpos.required_eq (readAs_text _),
    hcolumn.required_eq (readAs_count (hfits _ List.mem_cons_self)), hdialects.optional_eq hoption]

end CreatorConfig

theorem ProviderConfig.keysOnce (p : ProviderConfig) : p.toJson.KeysOnce := by
  simp [ProviderConfig.toJson, CreatorConfig.keysOnce]

theorem ProviderConfig.plain {p : ProviderConfig} (h : p.Fits) {n : Nat} :
    Plain (n + 3) p.toJson := by
  refine .object ?_
  simp only [List.forall_mem_cons]
  exact ⟨.string _, plain_ofInt64 _, plain_ofList fun id _ => plain_ofInt64 id,
    plain_ofMap fun e _ => plain_ofInt64 e.2, plain_ofList fun c hc => CreatorConfig.plain (h c hc),
    nofun⟩

theorem ProviderConfig.readAs {p : ProviderConfig} (hfits : p.Fits) :
    p.toJson.ReadAs ProviderConfig.ofJson? p := by
  intro w hw
  obtain ⟨r, hr, h⟩ := hw.exists_record ["language", "orthographyId", "defaultDialects",
    "dialects", "creators"]
  simp only [List.forall_mem_cons] at h
  obtain ⟨hlanguage, horthography, hdefaults, hdialects, hcreators, -⟩ := h
  have hset := readAs_set fun id (_ : id ∈ p.defaultDialects.toList) => readAs_int64 id
  have hmap := readAs_map fun e (_ : e ∈ p.dialects.entries) => readAs_int64 e.2
  have hlist := readAs_list fun c hc => CreatorConfig.readAs (hfits c hc)
  simp only [ofJson?, hr, hlanguage.required_eq (readAs_text _),
    horthography.required_eq (readAs_int64 _), hdefaults.defaulted_eq hset,
    hdialects.defaulted_eq hmap, hcreators.required_eq hlist, Option.bind_eq_bind,
    Option.bind_some, Option.pure_def]

/-! ## Configurations -/

namespace Config

theorem keysOnce (c : Config) : c.toJson.KeysOnce := by
  simp [toJson, ReferenceConfig.keysOnce, ProviderConfig.keysOnce]

theorem plain {c : Config} (h : c.Fits) {n : Nat} : Plain (n + 6) c.toJson := by
  refine .object ?_
  simp only [List.forall_mem_cons]
  exact ⟨.string _, plain_ofCount h.columnCount, plain_ofCount h.minColumnCount,
    plain_ofList fun k hk => plain_ofCount (h.skipLines k hk), plain_ofCount h.posColumn,
    ReferenceConfig.plain h.reference,
    plain_ofList fun p hp => ProviderConfig.plain (h.providers p hp), nofun⟩

theorem readAs {c : Config} (hfits : c.Fits) : c.toJson.ReadAs ofJson? c := by
  intro w hw
  obtain ⟨r, hr, h⟩ := hw.exists_record ["separator", "columnCount", "minColumnCount",
    "skipLines", "posColumn", "reference", "providers"]
  simp only [List.forall_mem_cons] at h
  obtain ⟨hseparator, hcount, hmin, hskip, hpos, hreference, hproviders, -⟩ := h
  have hset := readAs_set fun k hk => readAs_count (hfits.skipLines k hk)
  have hlist := readAs_list fun p hp => ProviderConfig.readAs (hfits.providers p hp)
  simp only [ofJson?, hr, hseparator.defaulted_eq (readAs_char _),
    hcount.required_eq (readAs_count hfits.columnCount),
    hmin.defaulted_eq (readAs_count hfits.minColumnCount), hskip.defaulted_eq hset,
    hpos.required_eq (readAs_count hfits.posColumn),
    hreference.required_eq (ReferenceConfig.readAs hfits.reference), hproviders.required_eq hlist,
    Option.bind_eq_bind, Option.bind_some, Option.pure_def]

theorem faithful : Faithful toJson ofJson? Fits :=
  .of_plain keysOnce (fun _ => readAs) fun _ h => plain h (n := 0)

/-- A configuration that has been read is read again from what it is written as. Written once
more it has the same value, but for the order of the members. -/
theorem ofText_writtenAs {t : List Char} {c : Config} (h : ofText t = .ok c) :
    c.toJson.WrittenAs c.toJson.compact.toList ∧ c.toJson.WrittenAs c.toJson.pretty.toList ∧
      ∀ t', c.toJson.WrittenAs t' → ∃ d, ofText t' = .ok d ∧ d = c ∧
        ∃ w, Json.read? t' = some w ∧ w.Rearranged d.toJson := by
  have hfits := fits_of_ofText h
  refine ⟨c.keysOnce.writtenAs_compact, c.keysOnce.writtenAs_pretty, fun t' ht' => ?_⟩
  have hread : (Json.read? t').bind ofJson? = some c := faithful.ofText hfits ht'
  obtain ⟨w, hw, hrearranged⟩ := (plain hfits (n := 0)).exists_read? ht'
  refine ⟨c, ?_, rfl, w, hw, hrearranged.symm⟩
  rw [ofText, hread]
  exact check_eq_ok_iff.2 ⟨rfl, isSound_of_ofText h⟩

/-- With all that has a default left out, and a grammar that is given by its place. -/
def terseText : List Char :=
  Json.Writer.compact (.object [("columnCount", ofCount 2), ("posColumn", ofCount 0),
    ("skipLines", .array [ofCount 2, ofCount 1, ofCount 2]), ("reference", .object []),
    ("providers", .array [.array [.string "nds", ofCount 7, .array [], .object [],
      .array [.object [("pos", .string "x"), ("kind", ofCount 3), ("column", ofCount 1)]]]])])

def terse : Config where
  separator := '\t'
  columnCount := 2
  minColumnCount := 0
  skipLines := SortedSet.ofList [1, 2]
  posColumn := 0
  reference := ⟨[], []⟩
  providers := [⟨"nds", 7, ∅, ∅, [⟨"x", .multi ';' false, 1, none⟩]⟩]

theorem ofText_writtenAs_terse : ofText terseText = .ok terse ∧
    ofText terse.toJson.compact.toList = .ok terse := by
  have hterse : ofText terseText = .ok terse := by decide +kernel
  obtain ⟨hcompact, -, hread⟩ := ofText_writtenAs hterse
  obtain ⟨d, hd, rfl, -⟩ := hread _ hcompact
  exact ⟨hterse, hd⟩

end Config

end Wordbook
