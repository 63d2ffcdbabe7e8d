import Wordbook.Proofs.Delimited
import Wordbook.Proofs.FirstFailure
import Wordbook.Proofs.SingleCell

/-!
# What a configuration needs of the reference data

A run is set up with the languages and the slots that its configuration names.
Of entries for the same language or part of speech, the last one counts. If
something is missing, the run ends with the first fault: a part of speech
without slots before all others, then provider by provider and creator by
creator.

* `Config.Resolves`: the reference data that a configuration can be set up with;
* `Config.Fails`: the fault that is told if it cannot;
* `Importer.initialise_iff`: a run is set up exactly if nothing is missing, and
  with every creator of the configuration.
-/

namespace Wordbook

namespace ReferenceConfig

variable (rc : ReferenceConfig)

/-- The entry of a part of speech that counts. -/
def pos? (tag : String) : Option PosConfig := rc.partsOfSpeech.reverse.find? (·.tag == tag)

/-- The entry of a language that counts. -/
def language? (code : String) : Option Language := rc.languages.reverse.find? (·.code == code)

/-- A part of speech has slots. -/
def HasSlots (tag : String) : Prop := ∃ entry, rc.pos? tag = some entry ∧ entry.slots ≠ []

/-- A part of speech has a slot of this name. -/
def HasSlot (tag name : String) : Prop :=
  ∃ entry, rc.pos? tag = some entry ∧ ∃ slot ∈ entry.slots, slot.name = name

/-- The paradigm of a part of speech is made of the slots of its entry. -/
def HasParadigm (tag : String) (p : Paradigm) : Prop :=
  ∃ entry, rc.pos? tag = some entry ∧ Paradigm.ofSlots ⟨entry.id, entry.tag⟩ entry.slots = .ok p

end ReferenceConfig

/-- The names of the slots that a grammar fills, in the order in which it looks for them. Those that
do with the base look for none. -/
def Grammar.slotNames : Grammar → List String
  | noun _ => ["singular", "plural"]
  | verb => ["infinitive", "infinitive_divided", "present_3sg", "preterite_3sg", "participle"]
  | misc | multi .. => []

/-- All slots that a creator fills are there. -/
def CreatorConfig.Resolves (rc : ReferenceConfig) (cc : CreatorConfig) : Prop :=
  ∀ name ∈ cc.grammar.slotNames, rc.HasSlot cc.tag name

structure ProviderConfig.Resolves (rc : ReferenceConfig) (pc : ProviderConfig) : Prop where
  language : ∃ language, rc.language? pc.language = some language
  creators : ∀ cc ∈ pc.creators, cc.Resolves rc

structure Config.Resolves (rc : ReferenceConfig) (c : Config) : Prop where
  slots : ∀ tag ∈ c.configuredPos, rc.HasSlots tag
  providers : ∀ pc ∈ c.providers, pc.Resolves rc

/-- A creator fails at the first slot that is not there. -/
def CreatorConfig.Fails (rc : ReferenceConfig) (cc : CreatorConfig) (e : SetupError) : Prop :=
  FirstFails (fun name e => ¬rc.HasSlot cc.tag name ∧ e = .missingSlot cc.tag name)
    cc.grammar.slotNames e

/-- A provider fails at its language, or else at the first of its creators that fails. -/
def ProviderConfig.Fails (rc : ReferenceConfig) (pc : ProviderConfig) (e : SetupError) : Prop :=
  rc.language? pc.language = none ∧ e = .unknownLanguage pc.language ∨
    (∃ language, rc.language? pc.language = some language) ∧
      FirstFails (CreatorConfig.Fails rc) pc.creators e

/-- A configuration fails at the smallest part of speech without slots, or else at the first
provider that fails. -/
def Config.Fails (rc : ReferenceConfig) (c : Config) (e : SetupError) : Prop :=
  (∃ tag ∈ c.configuredPos, (¬rc.HasSlots tag ∧ e = .noSlots tag) ∧
    ∀ other ∈ c.configuredPos, ¬rc.HasSlots other → ¬other < tag) ∨
  (∀ tag ∈ c.configuredPos, rc.HasSlots tag) ∧
    FirstFails (ProviderConfig.Fails rc) c.providers e

section

variable {rc : ReferenceConfig}

theorem CreatorConfig.exists_fails_iff {cc : CreatorConfig} :
    (∃ e, cc.Fails rc e) ↔ ¬cc.Resolves rc := by
  simp [Fails, exists_firstFails_iff, Resolves]

theorem ProviderConfig.exists_fails_iff {pc : ProviderConfig} :
    (∃ e, pc.Fails rc e) ↔ ¬pc.Resolves rc := by
  simp only [Fails, exists_or, exists_and_left, exists_eq, and_true, exists_firstFails_iff,
    CreatorConfig.exists_fails_iff]
  constructor
  · rintro (hnone | ⟨-, cc, hcc, hfails⟩) h
    · obtain ⟨language, hsome⟩ := h.language
      nomatch hnone.symm.trans hsome
    · exact hfails (h.creators cc hcc)
  · intro h
    cases hlanguage : rc.language? pc.language with
    | none => exact .inl rfl
    | some language =>
      refine .inr ⟨⟨language, rfl⟩, ?_⟩
      by_contra hcreators
      exact h ⟨⟨language, hlanguage⟩, by simpa using hcreators⟩

end

/-! ## Entries -/

theorem lookup_map_key {α κ : Type} [BEq κ] [LawfulBEq κ] (key : α → κ) (as : List α) (k : κ) :
    (as.map fun a => (key a, a)).lookup k = as.find? (key · == k) := by
  induction as with
  | nil => rfl
  | cons a as ih => rw [List.map_cons, List.lookup_cons, List.find?_cons, ih, BEq.comm]

/-- Where no two elements have the same key, each is found by its own. -/
theorem find?_key_eq_some {α κ : Type} [BEq κ] [LawfulBEq κ] (key : α → κ) {as : List α} {a : α}
    (h : as.Pairwise (key · ≠ key ·)) (ha : a ∈ as) : as.find? (key · == key a) = some a := by
  obtain ⟨before, after, rfl⟩ := List.append_of_mem ha
  refine List.find?_eq_some_iff_append.2 ⟨beq_self_eq_true _, before, after, rfl, fun b hb => ?_⟩
  simpa using (List.pairwise_append.1 h).2.2 b hb a List.mem_cons_self

namespace ReferenceConfig

variable {rc : ReferenceConfig} {tag name : String} {p : Paradigm}

theorem get?_ofConfig (rc : ReferenceConfig) (tag : String) :
    (Reference.ofConfig rc).partsOfSpeech.get? tag = rc.pos? tag := by
  rw [Reference.ofConfig, SortedMap.get?_ofList, ← List.map_reverse, lookup_map_key]
  rfl

theorem language?_ofConfig (rc : ReferenceConfig) (code : String) :
    (Reference.ofConfig rc).language? code = rc.language? code := by
  rw [Reference.language?, Reference.ofConfig, SortedMap.get?_ofList, ← List.map_reverse,
    lookup_map_key]
  rfl

theorem tag_of_pos? {entry : PosConfig} (h : rc.pos? tag = some entry) : entry.tag = tag := by
  simpa using List.find?_some h

theorem hasSlots_iff : rc.HasSlots tag ↔ ∃ p, rc.HasParadigm tag p := by
  constructor
  · rintro ⟨entry, hentry, hslots⟩
    exact ⟨_, entry, hentry, dif_neg hslots⟩
  · rintro ⟨p, entry, hentry, hp⟩
    exact ⟨entry, hentry, (Paradigm.ofSlots_eq_ok_iff.1 hp).1⟩

theorem paradigm?_eq_some_iff :
    (Reference.ofConfig rc).paradigm? tag = some p ↔ rc.HasParadigm tag p := by
  rw [Reference.paradigm?, get?_ofConfig]
  refine Option.bind_eq_some_iff.trans (exists_congr fun entry => and_congr_right fun _ => ?_)
  cases Paradigm.ofSlots ⟨entry.id, entry.tag⟩ entry.slots <;> simp [Except.toOption]

namespace HasParadigm

theorem tag_eq (h : rc.HasParadigm tag p) : p.pos.tag = tag := by
  obtain ⟨entry, hentry, hp⟩ := h
  obtain ⟨-, hpos, -⟩ := Paradigm.ofSlots_eq_ok_iff.1 hp
  rw [hpos, ← tag_of_pos? hentry]

theorem mem_slots_iff (h : rc.HasParadigm tag p) :
    (∃ slot ∈ p.slots, slot.name = name) ↔ rc.HasSlot tag name := by
  obtain ⟨entry, hentry, hp⟩ := h
  obtain ⟨-, -, hslots⟩ := Paradigm.ofSlots_eq_ok_iff.1 hp
  simp [HasSlot, hentry, hslots, Paradigm.order]

/-- A slot that is asked for is found or missing. -/
theorem require_eq_error_iff (h : rc.HasParadigm tag p) {e : SetupError} :
    p.require name = .error e ↔ ¬rc.HasSlot tag name ∧ e = .missingSlot tag name := by
  rw [Paradigm.require_eq_error_iff, h.tag_eq, ← h.mem_slots_iff]
  simp

end HasParadigm

end ReferenceConfig

/-- The table has the paradigm of a part of speech under its tag. -/
def Paradigm.Table.Holds (rc : ReferenceConfig) (table : Paradigm.Table) (tag : String) : Prop :=
  ∃ p, rc.HasParadigm tag p ∧ table.get? tag = some p

namespace Reference

variable {rc : ReferenceConfig} {tag : String} {table table' : Paradigm.Table} {e : SetupError}

theorem addParadigm_eq_error_iff :
    (ofConfig rc).addParadigm table tag = .error e ↔ ¬rc.HasSlots tag ∧ e = .noSlots tag := by
  have hiff : rc.HasSlots tag ↔ ∃ p, (ofConfig rc).paradigm? tag = some p :=
    ReferenceConfig.hasSlots_iff.trans (exists_congr fun _ =>
      ReferenceConfig.paradigm?_eq_some_iff.symm)
  rw [addParadigm, hiff]
  cases (ofConfig rc).paradigm? tag <;> simp [eq_comm]

/-- A paradigm is added under its tag, and the others stay. -/
theorem holds_of_addParadigm (h : (ofConfig rc).addParadigm table tag = .ok table') :
    table'.Holds rc tag ∧ ∀ other, table.Holds rc other → table'.Holds rc other := by
  unfold addParadigm at h
  split at h
  · rename_i p hp
    obtain rfl := Except.ok.inj h
    have hp := ReferenceConfig.paradigm?_eq_some_iff.1 hp
    have hget (k : String) : (table.add p).get? k = if k = tag then some p else table.get? k := by
      rw [Paradigm.Table.add, SortedMap.get?_insert, hp.tag_eq]
    refine ⟨⟨p, hp, by rw [hget, if_pos rfl]⟩, fun other ⟨q, hq, hother⟩ => ?_⟩
    by_cases htag : other = tag
    · exact ⟨p, htag ▸ hp, by rw [hget, if_pos htag]⟩
    · exact ⟨q, hq, by rw [hget, if_neg htag, hother]⟩
  · nomatch h

theorem holds_of_foldlM {tags : List String}
    (h : tags.foldlM (ofConfig rc).addParadigm table = .ok table') :
    (∀ tag ∈ tags, table'.Holds rc tag) ∧ ∀ tag, table.Holds rc tag → table'.Holds rc tag := by
  induction tags generalizing table with
  | nil =>
    obtain rfl := Except.ok.inj h
    exact ⟨nofun, fun _ => id⟩
  | cons tag tags ih =>
    rw [List.foldlM_cons] at h
    obtain ⟨table₁, hadd, h⟩ := bind_eq_ok_iff.1 h
    obtain ⟨htag, hkeep⟩ := holds_of_addParadigm hadd
    obtain ⟨htags, hkeep'⟩ := ih h
    exact ⟨List.forall_mem_cons.2 ⟨hkeep' tag htag, htags⟩, fun tag h => hkeep' tag (hkeep tag h)⟩

theorem paradigms_eq_error_iff {tags : List String} : (ofConfig rc).paradigms tags = .error e ↔
    FirstFails (fun tag e => ¬rc.HasSlots tag ∧ e = .noSlots tag) tags e :=
  foldlM_eq_error_iff (f := (ofConfig rc).addParadigm) fun _ _ _ => addParadigm_eq_error_iff

end Reference

/-! ## Creators and providers -/

theorem NounSlots.resolve_eq_error_iff {p : Paradigm} {e : SetupError} :
    NounSlots.resolve p = .error e ↔ ["singular", "plural"].mapM p.require = .error e := by
  simp [NounSlots.resolve, bind_eq_error_iff, pure, Except.pure]

theorem VerbSlots.resolve_eq_error_iff {p : Paradigm} {e : SetupError} :
    VerbSlots.resolve p = .error e ↔
      ["infinitive", "infinitive_divided", "present_3sg", "preterite_3sg", "participle"].mapM
        p.require = .error e := by
  simp [VerbSlots.resolve, bind_eq_error_iff, pure, Except.pure]

/-- The slots of a grammar are asked for one after another. -/
theorem Grammar.resolve_eq_error_iff {g : Grammar} {p : Paradigm} {e : SetupError} :
    g.resolve p = .error e ↔
      FirstFails (fun name e => p.require name = .error e) g.slotNames e := by
  rw [← mapM_eq_error_iff]
  cases g with
  | noun => exact NounSlots.resolve_eq_error_iff
  | verb => exact VerbSlots.resolve_eq_error_iff
  | misc | multi => simp [resolve, slotNames, pure, Except.pure]

/-- A creator is initialised with the slots of its part of speech. -/
def CreatorConfig.IsSetUp (rc : ReferenceConfig) (cc : CreatorConfig) (bound : BoundCreator) :
    Prop :=
  ∃ paradigm slots, rc.HasParadigm cc.tag paradigm ∧ cc.grammar.resolve paradigm = .ok slots ∧
    bound = ⟨⟨cc.tag, cc.column, cc.grammar, some slots⟩, cc.dialectColumn⟩

/-- A provider is set up as its configuration has it, with an initialised creator for each of its
creators, all of which are found under their tags. -/
structure ProviderConfig.IsSetUp (rc : ReferenceConfig) (pc : ProviderConfig) (p : Provider) :
    Prop where
  language : rc.language? pc.language = some p.language
  orthographyId_eq : p.orthographyId = pc.orthographyId
  dialects_eq : p.dialects = pc.toDialects
  creators : List.Forall₂ (CreatorConfig.IsSetUp rc) pc.creators p.creators
  creator?_eq : ∀ bound ∈ p.creators, p.creator? bound.creator.tag = some bound

section

variable {rc : ReferenceConfig} {table : Paradigm.Table} {e : SetupError}

theorem CreatorConfig.resolve_eq {cc : CreatorConfig} {p : Paradigm}
    (h : table.get? cc.tag = some p) : cc.resolve table = (cc.grammar.resolve p).map fun slots =>
      ⟨⟨cc.tag, cc.column, cc.grammar, some slots⟩, cc.dialectColumn⟩ := by
  rw [resolve, Paradigm.Table.require, h]
  show ((cc.grammar.resolve p).map _ >>= _) = _
  cases cc.grammar.resolve p <;> rfl

theorem CreatorConfig.resolve_eq_error_iff {cc : CreatorConfig} (h : table.Holds rc cc.tag) :
    cc.resolve table = .error e ↔ cc.Fails rc e := by
  obtain ⟨p, hp, hget⟩ := h
  rw [resolve_eq hget, map_eq_error_iff, Grammar.resolve_eq_error_iff]
  exact firstFails_congr fun name _ _ => hp.require_eq_error_iff

theorem CreatorConfig.isSetUp_of_resolve {cc : CreatorConfig} {bound : BoundCreator}
    (h : table.Holds rc cc.tag) (hbound : cc.resolve table = .ok bound) : cc.IsSetUp rc bound := by
  obtain ⟨p, hp, hget⟩ := h
  rw [resolve_eq hget] at hbound
  obtain ⟨slots, hslots, rfl⟩ := map_eq_ok_iff.1 hbound
  exact ⟨p, slots, hp, hslots, rfl⟩

theorem ProviderConfig.resolve_eq_error_iff {pc : ProviderConfig}
    (h : ∀ cc ∈ pc.creators, table.Holds rc cc.tag) :
    pc.resolve (Reference.ofConfig rc) table = .error e ↔ pc.Fails rc e := by
  rw [resolve, Fails, rc.language?_ofConfig]
  cases rc.language? pc.language with
  | none => simp [eq_comm]
  | some language =>
    have hcreators : pc.creators.mapM (CreatorConfig.resolve table) = .error e ↔
        FirstFails (CreatorConfig.Fails rc) pc.creators e :=
      mapM_eq_error_iff.trans
        (firstFails_congr fun cc hcc _ => CreatorConfig.resolve_eq_error_iff (h cc hcc))
    simp [bind_eq_error_iff, hcreators, pure, Except.pure]

theorem ProviderConfig.isSetUp_of_resolve {columnCount : Nat} {pc : ProviderConfig} {p : Provider}
    (hpc : pc.IsSound columnCount) (h : ∀ cc ∈ pc.creators, table.Holds rc cc.tag)
    (hp : pc.resolve (Reference.ofConfig rc) table = .ok p) : pc.IsSetUp rc p := by
  rw [resolve, rc.language?_ofConfig] at hp
  split at hp
  · nomatch hp
  · rename_i language hlanguage
    obtain ⟨bounds, hbounds, hp⟩ := bind_eq_ok_iff.1 hp
    obtain rfl := Except.ok.inj hp
    have hcreators : List.Forall₂ (CreatorConfig.IsSetUp rc) pc.creators bounds := by
      have hresolved := (List.forall₂_and_left ..).2 ⟨h, mapM_eq_ok_iff.1 hbounds⟩
      exact hresolved.imp fun cc bound ⟨htable, hbound⟩ =>
        CreatorConfig.isSetUp_of_resolve htable hbound
    refine ⟨hlanguage, rfl, rfl, hcreators, fun bound hbound => ?_⟩
    have htags : bounds.map (·.creator.tag) = pc.creators.map (·.tag) :=
      map_eq_map_of_forall₂ (hcreators.flip.imp fun bound cc ⟨_, _, _, _, h⟩ => h ▸ rfl)
    refine find?_key_eq_some (·.creator.tag) ?_ hbound
    rw [← List.pairwise_map, htags, List.pairwise_map]
    exact hpc.tags

end

/-! ## Configurations -/

namespace Config

variable {rc : ReferenceConfig} {c : Config} {e : SetupError}

theorem holds_of_paradigms {table : Paradigm.Table}
    (h : (Reference.ofConfig rc).paradigms c.configuredPos.toList = .ok table)
    {pc : ProviderConfig} (hpc : pc ∈ c.providers) : ∀ cc ∈ pc.creators, table.Holds rc cc.tag :=
  fun cc hcc => (Reference.holds_of_foldlM h).1 cc.tag
    (mem_configuredPos_iff.2 ⟨pc, hpc, cc, hcc, rfl⟩)

/-- The parts of speech are gone through in the order of their tags. -/
theorem firstFails_configuredPos_iff :
    FirstFails (fun tag e => ¬rc.HasSlots tag ∧ e = .noSlots tag) c.configuredPos.toList e ↔
      ∃ tag ∈ c.configuredPos, (¬rc.HasSlots tag ∧ e = .noSlots tag) ∧
        ∀ other ∈ c.configuredPos, ¬rc.HasSlots other → ¬other < tag := by
  rw [firstFails_iff_of_pairwise String.lt_irrefl (fun _ _ _ => String.lt_trans)
    c.configuredPos.ascending]
  simp [SortedSet.mem_def]

theorem exists_fails_iff : (∃ e, c.Fails rc e) ↔ ¬c.Resolves rc := by
  have hslots : (∃ e, FirstFails (fun tag e => ¬rc.HasSlots tag ∧ e = SetupError.noSlots tag)
      c.configuredPos.toList e) ↔ ¬∀ tag ∈ c.configuredPos, rc.HasSlots tag := by
    rw [exists_firstFails_iff]
    simp [SortedSet.mem_def]
  simp only [Fails, ← firstFails_configuredPos_iff, exists_or, hslots, exists_and_left,
    exists_firstFails_iff, ProviderConfig.exists_fails_iff]
  constructor
  · rintro (hmissing | ⟨-, pc, hpc, hfails⟩) h
    · exact hmissing h.slots
    · exact hfails (h.providers pc hpc)
  · intro h
    by_cases hall : ∀ tag ∈ c.configuredPos, rc.HasSlots tag
    · refine .inr ⟨hall, ?_⟩
      by_contra hproviders
      exact h ⟨hall, by simpa using hproviders⟩
    · exact .inl hall

theorem resolve_eq_error_iff : c.resolve (Reference.ofConfig rc) = .error e ↔ c.Fails rc e := by
  rw [resolve, bind_eq_error_iff, Reference.paradigms_eq_error_iff, firstFails_configuredPos_iff,
    Fails]
  refine or_congr_right ⟨?_, ?_⟩
  · rintro ⟨table, htable, hfails⟩
    refine ⟨fun tag htag => ?_, ?_⟩
    · obtain ⟨p, hp, -⟩ := (Reference.holds_of_foldlM htable).1 tag htag
      exact ReferenceConfig.hasSlots_iff.2 ⟨p, hp⟩
    · refine (firstFails_congr fun pc hpc _ => ?_).1 (mapM_eq_error_iff.1 hfails)
      exact ProviderConfig.resolve_eq_error_iff (holds_of_paradigms htable hpc)
  · rintro ⟨hslots, hfails⟩
    have hok : ∃ table, (Reference.ofConfig rc).paradigms c.configuredPos.toList = .ok table := by
      rw [exists_eq_ok_iff]
      rintro ⟨e', he'⟩
      obtain ⟨tag, htag, ⟨hnone, -⟩, -⟩ :=
        firstFails_configuredPos_iff.1 (Reference.paradigms_eq_error_iff.1 he')
      exact hnone (hslots tag htag)
    obtain ⟨table, htable⟩ := hok
    refine ⟨table, htable, mapM_eq_error_iff.2 ((firstFails_congr fun pc hpc _ => ?_).2 hfails)⟩
    exact ProviderConfig.resolve_eq_error_iff (holds_of_paradigms htable hpc)

theorem exists_resolve_eq_ok_iff :
    (∃ ps, c.resolve (Reference.ofConfig rc) = .ok ps) ↔ c.Resolves rc := by
  simp only [exists_eq_ok_iff, resolve_eq_error_iff, exists_fails_iff, not_not]

theorem isSetUp_of_resolve (hc : c.IsSound) {ps : List Provider}
    (h : c.resolve (Reference.ofConfig rc) = .ok ps) :
    List.Forall₂ (ProviderConfig.IsSetUp rc) c.providers ps := by
  obtain ⟨table, htable, hps⟩ := bind_eq_ok_iff.1 h
  have hresolved := (List.forall₂_and_left ..).2 ⟨fun _ => id, mapM_eq_ok_iff.1 hps⟩
  exact hresolved.imp fun pc p ⟨hpc, hp⟩ =>
    ProviderConfig.isSetUp_of_resolve (hc.providers pc hpc) (holds_of_paradigms htable hpc) hp

end Config

namespace Importer

section

variable {s : Setup} {now : String} {j : Importer}

theorem Setup.initialise_eq_ok_iff : s.importer.initialise now = (.ok (), j) ↔
    ∃ ps, s.config.resolve s.reference = .ok ps ∧
      j = { s.importer with providers := ps, state := .initialised } := by
  cases hresolve : s.config.resolve s.reference with
  | ok ps =>
    have hproviders : s.providers = ps := Setup.providers_eq hresolve
    rw [Setup.initialise_of_ok (hproviders.symm ▸ hresolve), Setup.initialised, hproviders]
    simp [Setup.importer, new, eq_comm]
  | error fault =>
    rw [Setup.initialise_of_error hresolve]
    simp [abort]

theorem Setup.initialise_eq_error_iff {e : ImportError} :
    s.importer.initialise now = (.error e, j) ↔
      ∃ fault, s.config.resolve s.reference = .error fault ∧ e = .setup fault ∧
        j = { s.importer with state := .aborted, finishedAt := some now } := by
  cases hresolve : s.config.resolve s.reference with
  | ok ps =>
    have hproviders : s.providers = ps := Setup.providers_eq hresolve
    rw [Setup.initialise_of_ok (hproviders.symm ▸ hresolve)]
    simp
  | error fault =>
    rw [Setup.initialise_of_error hresolve]
    simp [abort, eq_comm]

end

/-- A run with any reference data is set up exactly if its configuration resolves, and then with all
its providers and creators. Otherwise the first fault aborts it. -/
theorem initialise_iff {t : List Char} {c : Config} (hc : Config.ofText t = .ok c)
    (rc : ReferenceConfig) (codecs : Codecs) (encoding : Option String) (keep : Row → Bool)
    (first : Int64) (now : String) :
    let i := Setup.importer ⟨c, .ofConfig rc, codecs, encoding, keep, first⟩
    ((∃ j, i.initialise now = (.ok (), j)) ↔ c.Resolves rc) ∧
    (∀ j, i.initialise now = (.ok (), j) → j.state = .initialised ∧
      List.Forall₂ (ProviderConfig.IsSetUp rc) c.providers j.providers) ∧
    ∀ e j, i.initialise now = (.error e, j) ↔ ∃ fault, c.Fails rc fault ∧ e = .setup fault ∧
      j = { i with state := .aborted, finishedAt := some now } := by
  refine ⟨?_, fun j hj => ?_, fun e j => ?_⟩
  · rw [← Config.exists_resolve_eq_ok_iff]
    simp only [Setup.initialise_eq_ok_iff]
    exact ⟨fun ⟨_, ps, hps, _⟩ => ⟨ps, hps⟩, fun ⟨ps, hps⟩ => ⟨_, ps, hps, rfl⟩⟩
  · obtain ⟨ps, hps, rfl⟩ := Setup.initialise_eq_ok_iff.1 hj
    exact ⟨rfl, Config.isSetUp_of_resolve (Config.isSound_of_ofText hc) hps⟩
  · simp only [Setup.initialise_eq_error_iff, Config.resolve_eq_error_iff]

/-- Nouns, declared twice. The entry that counts has no plural. -/
def sampleShadowed : ReferenceConfig where
  languages := [⟨1, "nds", ""⟩]
  partsOfSpeech := [⟨1, "n", Paradigm.tried.slots⟩, ⟨2, "n", [⟨10, "singular", 1⟩]⟩]

theorem initialise_iff_shadowed :
    Config.ofText Config.triedText = .ok .tried ∧
    ∃ j, (Setup.importer ⟨.tried, .ofConfig sampleShadowed, sampleCodecs, none, fun _ => true,
        -1⟩).initialise "" = (.error (.setup (.missingSlot "n" "plural")), j) ∧
      j.state = .aborted := by
  refine ⟨Config.ofText_tried, ?_⟩
  obtain ⟨-, -, hfail⟩ :=
    initialise_iff Config.ofText_tried sampleShadowed sampleCodecs none (fun _ => true) (-1) ""
  refine ⟨_, (hfail _ _).2 ⟨_, ?_, rfl, rfl⟩, rfl⟩
  have hpos {entry : PosConfig} (h : sampleShadowed.pos? "n" = some entry) :
      entry.slots = [⟨10, "singular", 1⟩] := Option.some.inj h ▸ rfl
  have hslots : ∀ tag ∈ Config.tried.configuredPos, sampleShadowed.HasSlots tag := by
    intro tag htag
    obtain ⟨pc, hpc, cc, hcc, rfl⟩ := Config.mem_configuredPos_iff.1 htag
    obtain rfl := List.mem_singleton.1 hpc
    obtain rfl := List.mem_singleton.1 hcc
    exact ⟨_, rfl, List.cons_ne_nil _ _⟩
  have hsingular : sampleShadowed.HasSlot "n" "singular" := ⟨_, rfl, _, List.mem_cons_self, rfl⟩
  have hplural : ¬sampleShadowed.HasSlot "n" "plural" := by
    rintro ⟨entry, hentry, slot, hslot, hname⟩
    rw [hpos hentry, List.mem_singleton] at hslot
    subst hslot
    exact absurd hname (by decide)
  refine .inr ⟨hslots, [], .tried, [], rfl, nofun, .inr ⟨⟨_, rfl⟩, [], .tried, [], rfl, nofun, ?_⟩⟩
  refine ⟨["singular"], "plural", [], rfl, ?_, hplural, rfl⟩
  rintro name hname e ⟨hmissing, -⟩
  rw [List.mem_singleton.1 hname] at hmissing
  exact hmissing hsingular

end Importer

end Wordbook
