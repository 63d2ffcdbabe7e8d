import Wordbook.Proofs.Bundle
import Wordbook.Proofs.Resolution
import Wordbook.Proofs.Spelling

/-!
# Calls to a creator

A creator is initialised once, with the first paradigm that has all slots of its
grammar. Until then it creates nothing, and a call that fails leaves it as it is;
from then on its slots are those of that paradigm, whatever else is called.

* `Creator.Call`, `Creator.afterAll`: calls in any order, and what they leave;
* `Grammar.Makes.fillsOnly`: the slots of the forms that a grammar makes;
* `Creator.initialised_once`: a creator after any calls.
-/

namespace Wordbook

def NounSlots.toList (slots : NounSlots) : List Slot := [slots.singular, slots.plural]

def VerbSlots.toList (slots : VerbSlots) : List Slot :=
  [slots.infinitive, slots.divided, slots.present, slots.preterite, slots.participle]

theorem Paradigm.mem_slots_of_require {p : Paradigm} {name : String} {slot : Slot}
    (h : p.require name = .ok slot) : slot ∈ p.slots :=
  List.mem_of_find?_eq_some (require_eq_ok_iff.1 h)

theorem Paradigm.exists_require_eq_error_iff {p : Paradigm} {name : String} :
    (∃ e, p.require name = .error e) ↔ ¬∃ slot ∈ p.slots, slot.name = name := by
  simp [require_eq_error_iff]

namespace Grammar

/-- The slots that a grammar fills, as a list. -/
def slotList (g : Grammar) (slots : g.Slots) : List Slot :=
  match g, slots with
  | noun _, slots => NounSlots.toList slots
  | verb, slots => VerbSlots.toList slots
  | misc, base => [base]
  | multi _ _, base => [base]

/-- A paradigm has all slots that a grammar looks for. -/
def Suits (g : Grammar) (p : Paradigm) : Prop :=
  ∀ name ∈ g.slotNames, ∃ slot ∈ p.slots, slot.name = name

instance (g : Grammar) (p : Paradigm) : Decidable (g.Suits p) :=
  inferInstanceAs (Decidable (∀ name ∈ g.slotNames, ∃ slot ∈ p.slots, slot.name = name))

theorem exists_resolve_eq_ok_iff {g : Grammar} {p : Paradigm} :
    (∃ slots, g.resolve p = .ok slots) ↔ g.Suits p := by
  rw [exists_eq_ok_iff]
  simp only [resolve_eq_error_iff, exists_firstFails_iff, Paradigm.exists_require_eq_error_iff]
  simp [Suits]

theorem mem_slots_of_resolve {g : Grammar} {p : Paradigm} {slots : g.Slots}
    (h : g.resolve p = .ok slots) : ∀ slot ∈ g.slotList slots, slot ∈ p.slots := by
  cases g with
  | noun style =>
    obtain ⟨singular, hsingular, h⟩ := bind_eq_ok_iff.1 h
    obtain ⟨plural, hplural, h⟩ := bind_eq_ok_iff.1 h
    obtain rfl := Except.ok.inj h
    simp [slotList, NounSlots.toList, Paradigm.mem_slots_of_require hsingular,
      Paradigm.mem_slots_of_require hplural]
  | verb =>
    obtain ⟨infinitive, hinfinitive, h⟩ := bind_eq_ok_iff.1 h
    obtain ⟨divided, hdivided, h⟩ := bind_eq_ok_iff.1 h
    obtain ⟨present, hpresent, h⟩ := bind_eq_ok_iff.1 h
    obtain ⟨preterite, hpreterite, h⟩ := bind_eq_ok_iff.1 h
    obtain ⟨participle, hparticiple, h⟩ := bind_eq_ok_iff.1 h
    obtain rfl := Except.ok.inj h
    simp [slotList, VerbSlots.toList, Paradigm.mem_slots_of_require hinfinitive,
      Paradigm.mem_slots_of_require hdivided, Paradigm.mem_slots_of_require hpresent,
      Paradigm.mem_slots_of_require hpreterite, Paradigm.mem_slots_of_require hparticiple]
  | misc | multi =>
    obtain rfl := Except.ok.inj h
    exact List.forall_mem_singleton.2 (List.head_mem p.slots_ne_nil)

end Grammar

/-- All forms are of some slot of a list. -/
def Draft.FillsOnly (slots : List Slot) (d : Draft) : Prop :=
  ∀ f ∈ d.forms, ∃ slot ∈ slots, slot.id = f.slotId

theorem Noun.Makes.fillsOnly {style : NounStyle} {slots : NounSlots} {genera : SortedSet String}
    {spellings : List (List Char)} {d : Draft} (h : Makes style slots genera spellings d) :
    d.FillsOnly slots.toList := by
  unfold Draft.FillsOnly NounSlots.toList
  cases style with
  | genusSuffix =>
    change SuffixMakes slots genera spellings d at h
    unfold SuffixMakes at h
    split at h
    · subst h
      simp [Slot.form]
    · subst h
      simp [Slot.form]
    · exact h.elim
  | articlePrefix =>
    change ArticleMakes slots spellings d at h
    unfold ArticleMakes at h
    split at h
    · obtain ⟨singular, genus, -, rfl⟩ := h
      simp [Slot.form]
    · obtain ⟨singular, genus, -, plural, state, -, rfl⟩ := h
      simp [Slot.form]
    · exact h.elim

theorem Verb.Makes.fillsOnly {slots : VerbSlots} {listed : SortedSet String}
    {spellings : List (List Char)} {d : Draft} (h : Makes slots listed spellings d) :
    d.FillsOnly slots.toList := by
  have hinfinitives (text : List Char) :
      ∀ f ∈ infinitives slots text, ∃ slot ∈ slots.toList, slot.id = f.slotId := by
    unfold infinitives
    split <;> simp [Slot.form, VerbSlots.toList]
  unfold Makes at h
  split at h
  · subst h
    exact hinfinitives _
  · obtain ⟨text, marker, -, rfl⟩ := h
    refine List.forall_mem_append.2 ⟨hinfinitives _, ?_⟩
    simp [Slot.form, VerbSlots.toList]
  · exact h.elim

theorem SpellingMakes.fillsOnly {base : Slot} {edit : List Char → List Char}
    {spellings : List (List Char)} {d : Draft} (h : SpellingMakes base edit spellings d) :
    d.FillsOnly [base] := by
  match spellings, h with
  | [text], h =>
    obtain rfl : d = _ := h
    simp [Draft.FillsOnly, Slot.form]

namespace Grammar

variable {g : Grammar} {slots : g.Slots}

theorem Makes.fillsOnly {tags : SortedSet String} {spellings : List (List Char)} {d : Draft}
    (h : g.Makes slots tags spellings d) : d.FillsOnly (g.slotList slots) := by
  cases g with
  | noun style => exact Noun.Makes.fillsOnly h
  | verb => exact Verb.Makes.fillsOnly h
  | misc | multi => exact SpellingMakes.fillsOnly h

theorem MakesAll.fillsOnly {cell : List Char} {ds : List Draft} (h : g.MakesAll slots cell ds) :
    ∀ d ∈ ds, d.FillsOnly (g.slotList slots) := by
  obtain ⟨parts, tags, -, -, hmade⟩ := h
  intro d hd
  obtain ⟨k, hk⟩ := List.mem_iff_getElem?.1 hd
  obtain ⟨spellings, -, hmakes, -⟩ := hmade k d hk
  exact hmakes.fillsOnly

end Grammar

/-- All forms of a variant are of some slot of a list. -/
def Variant.FillsOnly (slots : List Slot) (v : Variant) : Prop :=
  ∀ f ∈ v.forms, ∃ slot ∈ slots, slot.id = f.slotId

theorem Variant.FillsOnly.mono {slots slots' : List Slot} {v : Variant} (h : v.FillsOnly slots)
    (hslots : ∀ slot ∈ slots, slot ∈ slots') : v.FillsOnly slots' := by
  intro f hf
  obtain ⟨slot, hslot, hid⟩ := h f hf
  exact ⟨slot, hslots slot hslot, hid⟩

theorem Draft.fillsOnly_lexeme {slots : List Slot} {ds : List Draft}
    (h : ∀ d ∈ ds, d.FillsOnly slots) (orthographyId first : Int64) :
    ∀ v ∈ lexeme orthographyId first ds, v.FillsOnly slots := by
  intro v hv f hf
  obtain ⟨d, hd, k, id, rfl⟩ := exists_of_mem_lexeme hv
  obtain ⟨form, hform, rfl⟩ := List.mem_map.1 hf
  exact h d hd form hform

theorem Draft.fillsOnly_lexemes {slots : List Slot} {gs : List (List Draft)}
    (h : ∀ ds ∈ gs, ∀ d ∈ ds, d.FillsOnly slots) (orthographyId first : Int64) :
    ∀ vs ∈ lexemes orthographyId first gs, ∀ v ∈ vs, v.FillsOnly slots := by
  induction gs generalizing first with
  | nil => exact List.forall_mem_nil _
  | cons ds gs ih =>
    obtain ⟨hds, hgs⟩ := List.forall_mem_cons.1 h
    exact List.forall_mem_cons.2 ⟨fillsOnly_lexeme hds orthographyId first, ih hgs _⟩

namespace Grammar

variable {g : Grammar} {slots : g.Slots} {tag : String} {ctx : Context} {cell : List Char}
  {ledger after : Ledger}

theorem fillsOnly_of_create {vs : List Variant}
    (h : g.create slots tag ctx cell ledger = (.ok vs, after)) :
    ∀ v ∈ vs, v.FillsOnly (g.slotList slots) := by
  cases hcell : Text.isBlankText cell with
  | true =>
    rw [create_blank g slots tag ctx hcell] at h
    obtain rfl := Except.ok.inj (congrArg Prod.fst h)
    exact List.forall_mem_nil _
  | false =>
    obtain ⟨ds, hds, rfl⟩ := (create_determined g slots tag hcell).apply_eq_ok_iff.1 ⟨after, h⟩
    exact Draft.fillsOnly_lexeme hds.fillsOnly _ _

theorem fillsOnly_of_createLexemes {lexemes : List (List Variant)}
    (h : g.createLexemes slots tag ctx cell ledger = (.ok lexemes, after)) :
    ∀ vs ∈ lexemes, ∀ v ∈ vs, v.FillsOnly (g.slotList slots) := by
  obtain ⟨gs, hgs, rfl⟩ := (createLexemes_determined g slots tag cell).apply_eq_ok_iff.1 ⟨after, h⟩
  refine Draft.fillsOnly_lexemes (fun ds hds => ?_) _ _
  obtain ⟨part, -, hmade⟩ := exists_of_mem_forall₂ hgs.flip hds
  exact MakesAll.fillsOnly hmade

end Grammar

/-! ## Calls -/

namespace Creator

/-- A call to a creator. -/
inductive Call where
  | initialise (p : Paradigm)
  | create (label : String) (orthographyId : Int64) (row : Row)
  | createText (label : String) (orthographyId : Int64) (row : Row) (text : List Char)
  | createLexemes (label : String) (orthographyId : Int64) (row : Row)

/-- The creator that a call leaves. One that fails leaves the same, and so does creation. -/
def after (c : Creator) : Call → Creator
  | .initialise p => (c.initialise p).toOption.getD c
  | .create .. | .createText .. | .createLexemes .. => c

def afterAll (c : Creator) (calls : List Call) : Creator := calls.foldl after c

/-- A creator of several lexemes needs its slots where a cell has any; another one always does. -/
def NeedsSlots (c : Creator) (row : Row) : Prop :=
  match c.grammar with
  | .multi separator _ =>
    ∃ part ∈ Text.pieces separator (c.cell row), Text.isBlankText part = false
  | _ => True

/-- A creator that creates nothing, and waits for a paradigm that suits it. -/
structure IsIdle (c : Creator) : Prop where
  initialise_iff : ∀ p, (∃ c', c.initialise p = .ok c') ↔ c.grammar.Suits p
  create_eq : ∀ label orthographyId row,
    c.create label orthographyId row = .error (.uninitialised c.tag)
  createText_eq : ∀ label orthographyId row text,
    c.createText label orthographyId row text = .error (.uninitialised c.tag)
  createLexemes_eq : ∀ label orthographyId row,
    (c.NeedsSlots row → c.createLexemes label orthographyId row = .error (.uninitialised c.tag)) ∧
      (¬c.NeedsSlots row → c.createLexemes label orthographyId row = .ok (return []))

/-- A creator that has been initialised with a paradigm, and keeps to it. -/
structure IsReady (c : Creator) (p : Paradigm) : Prop where
  initialise_eq : ∀ q, c.initialise q = .error (.alreadyInitialised c.tag)
  after_eq : ∀ call, c.after call = c
  slots : ∃ slots, c.grammar.resolve p = .ok slots ∧ c.slots = some slots
  create : ∀ label orthographyId row, ∃ creation,
    c.create label orthographyId row = .ok creation ∧ ∀ ledger vs after,
      creation ledger = (.ok vs, after) → ∀ v ∈ vs, v.FillsOnly p.slots
  createText : ∀ label orthographyId row text, ∃ creation,
    c.createText label orthographyId row text = .ok creation ∧ ∀ ledger vs after,
      creation ledger = (.ok vs, after) → ∀ v ∈ vs, v.FillsOnly p.slots
  createLexemes : ∀ label orthographyId row, ∃ creation,
    c.createLexemes label orthographyId row = .ok creation ∧ ∀ ledger lexemes after,
      creation ledger = (.ok lexemes, after) → ∀ vs ∈ lexemes, ∀ v ∈ vs, v.FillsOnly p.slots

section

variable {tag : String} {column : Nat} {grammar : Grammar} {p : Paradigm}

theorem lexemeParts_ne_nil_iff {c : Creator} {row : Row} :
    c.lexemeParts row ≠ [] ↔ c.NeedsSlots row := by
  obtain ⟨tag, column, grammar, slots⟩ := c
  cases grammar with
  | multi separator allowMultiWord =>
    simp [lexemeParts, Multi.lexemeParts, NeedsSlots, List.filter_eq_nil_iff, Text.trim_eq_nil_iff]
  | _ => exact iff_of_true (List.cons_ne_nil _ _) trivial

theorem isIdle_new (tag : String) (column : Nat) (grammar : Grammar) :
    (new tag column grammar).IsIdle where
  initialise_iff p := by
    rw [← Grammar.exists_resolve_eq_ok_iff]
    show (∃ c', (grammar.resolve p).map _ = .ok c') ↔ _
    simp [map_eq_ok_iff, new]
  create_eq _ _ _ := rfl
  createText_eq _ _ _ _ := rfl
  createLexemes_eq _ _ row := by
    rw [← lexemeParts_ne_nil_iff, ← List.isEmpty_eq_false_iff, Bool.not_eq_false]
    exact ⟨fun hfilled => if_neg (by rw [hfilled]; exact Bool.false_ne_true), fun h => if_pos h⟩

/-- A creator is initialised with the slots of the paradigm, and is otherwise the same. -/
theorem exists_initialise_new (tag : String) (column : Nat) (h : grammar.Suits p) :
    ∃ slots, grammar.resolve p = .ok slots ∧
      (new tag column grammar).initialise p = .ok ⟨tag, column, grammar, some slots⟩ := by
  obtain ⟨slots, hslots⟩ := Grammar.exists_resolve_eq_ok_iff.2 h
  refine ⟨slots, hslots, ?_⟩
  show (grammar.resolve p).map _ = _
  rw [hslots]
  rfl

theorem isReady_of_resolve {slots : grammar.Slots} (h : grammar.resolve p = .ok slots) :
    IsReady ⟨tag, column, grammar, some slots⟩ p where
  initialise_eq _ := rfl
  after_eq call := by cases call <;> rfl
  slots := ⟨slots, h, rfl⟩
  create _ _ _ := ⟨_, rfl, fun _ _ _ hrun v hv =>
    (Grammar.fillsOnly_of_create hrun v hv).mono (Grammar.mem_slots_of_resolve h)⟩
  createText _ _ _ _ := ⟨_, rfl, fun _ _ _ hrun v hv =>
    (Grammar.fillsOnly_of_create hrun v hv).mono (Grammar.mem_slots_of_resolve h)⟩
  createLexemes _ _ _ := ⟨_, rfl, fun _ _ _ hrun vs hvs v hv =>
    (Grammar.fillsOnly_of_createLexemes hrun vs hvs v hv).mono (Grammar.mem_slots_of_resolve h)⟩

/-- Nothing that a creator is called for makes it forget its slots. -/
theorem IsReady.afterAll_eq {c : Creator} (h : c.IsReady p) (calls : List Call) :
    c.afterAll calls = c := by
  induction calls with
  | nil => rfl
  | cons call calls ih =>
    rw [afterAll, List.foldl_cons, h.after_eq]
    exact ih

/-- Only a paradigm that suits the grammar makes a difference. -/
theorem after_new {call : Call} (h : ∀ p, .initialise p = call → ¬grammar.Suits p) :
    (new tag column grammar).after call = new tag column grammar := by
  cases call with
  | initialise p =>
    rw [after]
    cases hp : (new tag column grammar).initialise p with
    | error e => rfl
    | ok c => exact absurd (((isIdle_new tag column grammar).initialise_iff p).1 ⟨c, hp⟩) (h p rfl)
  | _ => rfl

end

/-- A creator after any calls. If it has been given no paradigm that suits its grammar, it is as
new, and waits for one. The first such paradigm is the one that it has from then on. -/
theorem initialised_once (tag : String) (column : Nat) (grammar : Grammar) (calls : List Call) :
    ((∀ p, .initialise p ∈ calls → ¬grammar.Suits p) ∧
      (new tag column grammar).afterAll calls = new tag column grammar ∧
      (new tag column grammar).IsIdle) ∨
    ∃ before p rest, calls = before ++ .initialise p :: rest ∧
      (∀ q, .initialise q ∈ before → ¬grammar.Suits q) ∧ grammar.Suits p ∧
      ∃ slots, (new tag column grammar).afterAll calls = ⟨tag, column, grammar, some slots⟩ ∧
        IsReady ⟨tag, column, grammar, some slots⟩ p := by
  induction calls with
  | nil => exact .inl ⟨fun _ => nofun, rfl, isIdle_new tag column grammar⟩
  | cons call calls ih =>
    by_cases hsuits : ∃ p, .initialise p = call ∧ grammar.Suits p
    · obtain ⟨p, rfl, hp⟩ := hsuits
      obtain ⟨slots, hslots, hinitialise⟩ := exists_initialise_new tag column hp
      have hready : IsReady ⟨tag, column, grammar, some slots⟩ p := isReady_of_resolve hslots
      refine .inr ⟨[], p, calls, rfl, fun _ => nofun, hp, slots, ?_, hready⟩
      rw [afterAll, List.foldl_cons, after, hinitialise]
      exact hready.afterAll_eq calls
    · have hcall (q : Paradigm) (hq : .initialise q = call) : ¬grammar.Suits q :=
        fun hsuit => hsuits ⟨q, hq, hsuit⟩
      have hstep : (new tag column grammar).afterAll (call :: calls) =
          (new tag column grammar).afterAll calls := by
        rw [afterAll, List.foldl_cons, after_new hcall]
        rfl
      rcases ih with ⟨hnone, hsame, hidle⟩ | ⟨before, p, rest, rfl, hbefore, hp, hready⟩
      · refine .inl ⟨fun q hq => ?_, hstep.trans hsame, hidle⟩
        exact (List.mem_cons.1 hq).elim (hcall q) (hnone q)
      · refine .inr ⟨call :: before, p, rest, rfl, fun q hq => ?_, hp, hstep ▸ hready⟩
        exact (List.mem_cons.1 hq).elim (hcall q) (hbefore q)

end Creator

end Wordbook
