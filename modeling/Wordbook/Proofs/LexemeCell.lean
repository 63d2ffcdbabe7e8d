import Wordbook.Creator
import Wordbook.Proofs.Parentheses
import Wordbook.Proofs.Written

/-!
# Cells of several lexemes that are read back

The lexemes of a cell are written between separators, each as its spellings with
tildes between them. They are read back one by one, and nothing is said about
them but for spellings of several words where those are not allowed.

* `Multi.IsSpelling`, `Multi.Spread`: what is written, and how;
* `Multi.createPart_writeLexeme`: a single lexeme;
* `Multi.creates_separated`: all lexemes of a cell.
-/

namespace Wordbook

open Creation

/-- A form whose text is not long is created without a warning. -/
theorem Creation.makeForm_of_length_le {ctx : Context} {slot : Slot} {text : List Char}
    (h : text.length ≤ longFormLength) (state : FormState) :
    makeForm ctx slot text state = pure (slot.form text state) := by
  have hmax : ¬text.length > maxFormLength :=
    Nat.not_lt_of_le (h.trans (by decide : longFormLength ≤ maxFormLength))
  rw [makeForm]
  simp only [hmax, Nat.not_lt_of_le h, ↓reduceIte]
  rfl

namespace Multi

open Text (isBlank isBlankText pieces trim)

/-- A character that may stand between lexemes. -/
structure IsSeparator (c : Char) : Prop where
  blank : isBlank c = false
  tilde : c ≠ '~'
  backslash : c ≠ '\\'

/-- A text that may stand for a spelling of a lexeme. -/
structure IsSpelling (separator : Char) (t : List Char) : Prop where
  ne_nil : t ≠ []
  trim_eq : trim t = t
  length_le : t.length ≤ longFormLength
  tilde : '~' ∉ t
  separator : separator ∉ t
  unescaped : IsUnescaped t

instance (separator : Char) (t : List Char) : Decidable (IsSpelling separator t) :=
  decidable_of_iff (t ≠ [] ∧ trim t = t ∧ t.length ≤ longFormLength ∧ '~' ∉ t ∧ separator ∉ t ∧
      IsUnescaped t)
    ⟨fun ⟨hne, htrim, hlength, htilde, hseparator, hunescaped⟩ =>
      ⟨hne, htrim, hlength, htilde, hseparator, hunescaped⟩,
      fun h => ⟨h.ne_nil, h.trim_eq, h.length_le, h.tilde, h.separator, h.unescaped⟩⟩

/-- A lexeme as it is written. -/
def writeLexeme (spellings : List (List Char)) : List Char := Cell.writePart (spellings.map escape)

/-- Some lexemes as the pieces of a cell, with blanks around them and blank pieces among them. -/
inductive Spread : List (List (List Char)) → List (List Char) → Prop where
  | nil : Spread [] []
  | blank {lexemes pieces gap} : isBlankText gap → Spread lexemes pieces →
    Spread lexemes (gap :: pieces)
  | lexeme {lexemes pieces before after spellings} : isBlankText before → isBlankText after →
    Spread lexemes pieces →
    Spread (spellings :: lexemes) ((before ++ writeLexeme spellings ++ after) :: pieces)

/-- Whether some spelling of a lexeme is of several words. -/
def isMultiWord (spellings : List (List Char)) : Bool := spellings.any (·.any isBlank)

/-! ## Written lexemes -/

section

variable {separator : Char} {spellings : List (List Char)}

theorem IsSpelling.isAlternative {t : List Char} (h : IsSpelling separator t) :
    Text.IsAlternative (escape t) where
  ne_nil := escape_ne_nil h.ne_nil
  trim_eq := trim_escape h.trim_eq
  tilde hmem := (mem_escape hmem).elim (by decide) h.tilde

theorem isAlternative_of_mem (h : ∀ t ∈ spellings, IsSpelling separator t) :
    ∀ t ∈ spellings.map escape, Text.IsAlternative t :=
  List.forall_mem_map.2 fun t ht => (h t ht).isAlternative

theorem separator_not_mem_writeLexeme (hseparator : IsSeparator separator)
    (h : ∀ t ∈ spellings, IsSpelling separator t) : separator ∉ writeLexeme spellings := by
  have hspace : separator ≠ ' ' := by
    rintro rfl
    exact absurd hseparator.blank (by decide)
  refine Text.not_mem_intercalate ?_ (List.forall_mem_map.2 fun t ht hmem => ?_)
  · simp only [List.mem_cons, List.not_mem_nil, or_false, not_or]
    exact ⟨hspace, hseparator.tilde, hspace⟩
  · exact (mem_escape hmem).elim hseparator.backslash (h t ht).separator

theorem trim_writeLexeme (h : ∀ t ∈ spellings, IsSpelling separator t) :
    trim (writeLexeme spellings) = writeLexeme spellings :=
  Text.trim_intercalate fun t ht =>
    ⟨(isAlternative_of_mem h t ht).trim_eq, (isAlternative_of_mem h t ht).ne_nil⟩

theorem writeLexeme_ne_nil (hne : spellings ≠ []) (h : ∀ t ∈ spellings, IsSpelling separator t) :
    writeLexeme spellings ≠ [] :=
  Text.intercalate_ne_nil (by simpa using hne) fun t ht => (isAlternative_of_mem h t ht).ne_nil

/-- No parenthesis of a lexeme is taken for a sign of a wrong cut. -/
theorem hasBareParenthesis_writeLexeme (h : ∀ t ∈ spellings, IsSpelling separator t) :
    hasBareParenthesis false (writeLexeme spellings) = false := by
  unfold writeLexeme Cell.writePart
  induction spellings with
  | nil => rfl
  | cons t ts ih =>
    obtain ⟨ht, hts⟩ := List.forall_mem_cons.1 h
    cases ts with
    | nil =>
      obtain ⟨e, hrest⟩ := hasBareParenthesis_escape_append ht.unescaped false nofun []
      rw [List.map_singleton, List.intercalate_singleton, ← List.append_nil (escape t), hrest]
      rfl
    | cons u ts =>
      have hgap (e : Bool) (rest : List Char) :
          hasBareParenthesis e ([' ', '~', ' '] ++ rest) = hasBareParenthesis false rest := by
        simp [hasBareParenthesis]
      obtain ⟨e, hrest⟩ := hasBareParenthesis_escape_append ht.unescaped false nofun
        ([' ', '~', ' '] ++ [' ', '~', ' '].intercalate ((u :: ts).map escape))
      rw [List.map_cons, List.map_cons, List.intercalate_cons_cons, List.append_assoc,
        ← List.map_cons, hrest, hgap]
      exact ih hts

theorem any_isBlank_escape (t : List Char) : (escape t).any isBlank = t.any isBlank := by
  rw [Bool.eq_iff_iff, List.any_eq_true, List.any_eq_true]
  constructor
  · rintro ⟨c, hc, hblank⟩
    rcases mem_escape hc with rfl | hc
    · exact absurd hblank (by decide)
    · exact ⟨c, hc, hblank⟩
  · rintro ⟨c, hc, hblank⟩
    exact ⟨c, mem_escape_of_mem hc, hblank⟩

theorem hasInnerBlank_writeLexeme (hne : spellings ≠ [])
    (h : ∀ t ∈ spellings, IsSpelling separator t) :
    hasInnerBlank (writeLexeme spellings) = isMultiWord spellings := by
  have hpieces := Cell.map_trim_pieces_writePart (by simpa using hne) (isAlternative_of_mem h)
  have hany (ps : List (List Char)) : (ps.any fun spelling => (trim spelling).any isBlank) =
      (ps.map trim).any (·.any isBlank) := by
    rw [List.any_map]
    rfl
  rw [hasInnerBlank, hany, writeLexeme, hpieces, List.any_map]
  exact congrArg spellings.any (funext any_isBlank_escape)

/-- A variant with one spelling. -/
def draft (base : Slot) (spelling : List Char) : Draft := ⟨[base.form spelling .typed], ∅, none⟩

/-- What is said about a lexeme: it is of several words where that is not allowed. -/
def warnings (tag : String) (allowMultiWord : Bool) (spellings : List (List Char)) : List String :=
  if !allowMultiWord && isMultiWord spellings then
    [innerBlankMessage (String.ofList (writeLexeme spellings)) tag]
  else []

theorem spellings_writeLexeme (ctx : Context) (base : Slot) (hne : spellings ≠ [])
    (h : ∀ t ∈ spellings, IsSpelling separator t) :
    Creation.spellings ctx base (writeLexeme spellings) unescape =
      Sketch.run ⟨[], (spellings.map (draft base)).length, .ok (spellings.map (draft base))⟩
        Draft.lexeme ctx := by
  have hcount : Cell.alternativeCount (writeLexeme spellings) =
      (spellings.map (draft base)).length := by
    rw [writeLexeme, Cell.alternativeCount_writePart (by simpa using hne)
      (isAlternative_of_mem h), List.length_map, List.length_map]
  rw [Creation.spellings, hcount]
  refine Sketch.run_range fun k d hd => ?_
  rw [List.getElem?_map] at hd
  obtain ⟨t, ht, rfl⟩ := Option.map_eq_some_iff.1 hd
  have halternative : Cell.alternative (writeLexeme spellings) k = .ok (escape t) := by
    refine Cell.alternative_writePart (isAlternative_of_mem h) ?_
    rw [Cell.shared?_map, Cell.shared?_self (List.getElem?_eq_some_iff.1 ht).1, ht]
    rfl
  rw [halternative]
  show makeForm ctx base (unescape (escape t)) .typed >>= _ = _
  rw [unescape_escape, makeForm_of_length_le (h t (List.mem_of_getElem? ht)).length_le, pure_bind]
  exact Sketch.run_makeVariant ..

theorem createPart_writeLexeme (ctx : Context) (base : Slot) (tag : String)
    (allowMultiWord : Bool) (hne : spellings ≠ []) (h : ∀ t ∈ spellings, IsSpelling separator t) :
    createPart ctx base tag allowMultiWord (writeLexeme spellings) =
      Sketch.run ⟨warnings tag allowMultiWord spellings, (spellings.map (draft base)).length,
        .ok (spellings.map (draft base))⟩ Draft.lexeme ctx := by
  have hfilled : isBlankText (writeLexeme spellings) = false := by
    rw [← Text.trim_ne_nil_iff, trim_writeLexeme h]
    exact writeLexeme_ne_nil hne h
  rw [createPart, hfilled, trim_writeLexeme h]
  simp only [hasBareParenthesis_writeLexeme h, hasInnerBlank_writeLexeme hne h,
    spellings_writeLexeme ctx base hne h, warnings, Bool.false_eq_true, ↓reduceIte]
  cases !allowMultiWord && isMultiWord spellings with
  | false => rfl
  | true =>
    exact Sketch.run_ok_bind (f := fun _ => Sketch.run ⟨[], _, .ok _⟩ Draft.lexeme ctx) rfl
      [innerBlankMessage (String.ofList (writeLexeme spellings)) tag]

end

/-! ## All lexemes of a cell -/

section

variable {separator : Char} {lexemes : List (List (List Char))} {pieces : List (List Char)}

/-- Lexemes that may be written in a cell. -/
def AreLexemes (separator : Char) (lexemes : List (List (List Char))) : Prop :=
  ∀ spellings ∈ lexemes, spellings ≠ [] ∧ ∀ t ∈ spellings, IsSpelling separator t

theorem Spread.separator_not_mem (hseparator : IsSeparator separator)
    (h : Spread lexemes pieces) (hlexemes : AreLexemes separator lexemes) :
    ∀ piece ∈ pieces, separator ∉ piece := by
  induction h with
  | nil => nofun
  | blank hgap _ ih =>
    exact List.forall_mem_cons.2 ⟨Text.not_mem_of_blank hseparator.blank hgap, ih hlexemes⟩
  | lexeme hbefore hafter _ ih =>
    obtain ⟨⟨-, hspellings⟩, hlexemes⟩ := List.forall_mem_cons.1 hlexemes
    refine List.forall_mem_cons.2 ⟨?_, ih hlexemes⟩
    rw [List.mem_append, List.mem_append, not_or, not_or]
    exact ⟨⟨Text.not_mem_of_blank hseparator.blank hbefore,
      separator_not_mem_writeLexeme hseparator hspellings⟩,
      Text.not_mem_of_blank hseparator.blank hafter⟩

/-- Trimming leaves the lexemes of the pieces, and nothing of those that are blank. -/
theorem Spread.filter_trim (h : Spread lexemes pieces) (hlexemes : AreLexemes separator lexemes) :
    (pieces.map trim).filter (!·.isEmpty) = lexemes.map writeLexeme := by
  induction h with
  | nil => rfl
  | blank hgap _ ih =>
    rw [List.map_cons, Text.trim_eq_nil_iff.2 hgap]
    exact ih hlexemes
  | lexeme hbefore hafter _ ih =>
    obtain ⟨⟨hne, hspellings⟩, hlexemes⟩ := List.forall_mem_cons.1 hlexemes
    rw [List.map_cons, Text.trim_append_blank hafter, Text.trim_blank_append hbefore,
      trim_writeLexeme hspellings, List.filter_cons_of_pos, ih hlexemes, List.map_cons]
    simpa using writeLexeme_ne_nil hne hspellings

theorem lexemeParts_intercalate (hseparator : IsSeparator separator)
    (hlexemes : AreLexemes separator lexemes) (h : Spread lexemes pieces) :
    lexemeParts separator ([separator].intercalate pieces) = lexemes.map writeLexeme := by
  cases pieces with
  | nil =>
    cases h
    rfl
  | cons piece pieces =>
    rw [lexemeParts, Text.pieces_intercalate (List.cons_ne_nil _ _)
      (h.separator_not_mem hseparator hlexemes), h.filter_trim hlexemes]

/-- All lexemes of a cell are read back, one after another. -/
theorem createLexemes_intercalate (ctx : Context) (base : Slot) (tag : String)
    (hseparator : IsSeparator separator) (hlexemes : AreLexemes separator lexemes)
    (h : Spread lexemes pieces) (allowMultiWord : Bool) :
    createLexemes ctx base tag separator allowMultiWord ([separator].intercalate pieces) =
      Sketch.run ⟨lexemes.flatMap (warnings tag allowMultiWord),
        (lexemes.flatMap (·.map (draft base))).length, .ok (lexemes.map (·.map (draft base)))⟩
        Draft.lexemes ctx := by
  rw [createLexemes, lexemeParts_intercalate hseparator hlexemes h, List.mapM_map]
  have hparts : lexemes.mapM (createPart ctx base tag allowMultiWord ∘ writeLexeme) = _ :=
    Sketch.run_mapM fun spellings hspellings => createPart_writeLexeme ctx base tag
      allowMultiWord (hlexemes spellings hspellings).1 (hlexemes spellings hspellings).2
  rw [hparts]
  refine Sketch.run_filter _ _ (List.forall_mem_map.2 fun spellings hspellings => ?_)
  simpa using (hlexemes spellings hspellings).1

/-- The variants of a lexeme are its spellings, in their order. The first one is the main
variant. -/
def HasSpellings (base : Slot) (spellings : List (List Char)) (variants : List Variant) : Prop :=
  variants.length = spellings.length ∧ ∀ (k : Nat) (t : List Char), spellings[k]? = some t →
    ∃ v, variants[k]? = some v ∧
      v.forms = [{ base.form t .typed with variantId := some v.id }] ∧ (v.main ↔ k = 0)

theorem hasSpellings_lexeme (base : Slot) (orthographyId first : Int64)
    (spellings : List (List Char)) :
    HasSpellings base spellings
      (Draft.lexeme orthographyId first (spellings.map (draft base))) := by
  refine ⟨by simp, fun k t ht => ?_⟩
  refine ⟨(draft base t).variant k orthographyId (first - Int64.ofNat k), ?_, rfl, ?_⟩
  · simp [Draft.lexeme, ht]
  · exact beq_iff_eq

theorem forall₂_hasSpellings (base : Slot) (orthographyId first : Int64)
    (lexemes : List (List (List Char))) :
    List.Forall₂ (HasSpellings base) lexemes
      (Draft.lexemes orthographyId first (lexemes.map (·.map (draft base)))) := by
  induction lexemes generalizing first with
  | nil => exact .nil
  | cons spellings lexemes ih => exact .cons (hasSpellings_lexeme ..) (ih _)

/-- One warning for each lexeme of several words, unless they are allowed. -/
theorem flatMap_warnings (tag : String) (allowMultiWord : Bool)
    (lexemes : List (List (List Char))) :
    lexemes.flatMap (warnings tag allowMultiWord) = if allowMultiWord then [] else
      (lexemes.filter isMultiWord).map fun spellings =>
        innerBlankMessage (String.ofList (writeLexeme spellings)) tag := by
  cases allowMultiWord with
  | true => exact List.flatMap_eq_nil_iff.2 fun _ _ => rfl
  | false =>
    induction lexemes with
    | nil => rfl
    | cons spellings lexemes ih =>
      rw [List.flatMap_cons, ih, warnings, List.filter_cons]
      cases isMultiWord spellings <;> rfl

/-- The lexemes of a cell are read back as they were written. -/
theorem creates_separated (tag label : String) (column : Nat) (base : Slot)
    (hseparator : IsSeparator separator) (hlexemes : AreLexemes separator lexemes)
    (hpieces : Spread lexemes pieces) {row : Row}
    (hrow : row.cell column = String.ofList ([separator].intercalate pieces))
    (orthographyId : Int64) (ledger : Ledger) :
    ∃ groups, List.Forall₂ (HasSpellings base) lexemes groups ∧
      ∀ allowMultiWord, ∃ creation after,
        (Creator.mk tag column (.multi separator allowMultiWord) (some base)).createLexemes
          label orthographyId row = .ok creation ∧
        creation ledger = (.ok groups, after) ∧
        after.diagnostics = ledger.diagnostics ++ if allowMultiWord then [] else
          (lexemes.filter isMultiWord).map fun spellings =>
            ⟨.warning, innerBlankMessage (String.ofList (writeLexeme spellings)) tag, label,
              row.line, some column⟩ := by
  refine ⟨_, forall₂_hasSpellings base orthographyId ledger.nextId lexemes,
    fun allowMultiWord => ?_⟩
  have hrun := createLexemes_intercalate ⟨label, orthographyId, row.line, column⟩ base tag
    hseparator hlexemes hpieces allowMultiWord
  rw [← String.toList_ofList (l := [separator].intercalate pieces), ← hrow] at hrun
  refine ⟨_, _, congrArg Except.ok hrun, rfl, ?_⟩
  show ledger.diagnostics ++ (lexemes.flatMap (warnings tag allowMultiWord)).map _ = _
  rw [flatMap_warnings]
  cases allowMultiWord with
  | true => rfl
  | false => exact congrArg (ledger.diagnostics ++ ·) List.map_map

/-- A word with parentheses in it, a blank lexeme, and a lexeme of two words. -/
theorem creates_separated_sample :
    ∃ groups, List.Forall₂ (HasSpellings ⟨1, "base", 0⟩)
        [["a(b)".toList, "c".toList], ["d e".toList]] groups ∧
      ∃ creation after, (Creator.mk "x" 0 (.multi ';' false) (some ⟨1, "base", 0⟩)).createLexemes
          "nds/x" 7 ⟨3, ["a\\(b\\) ~ c; ;d e "]⟩ = .ok creation ∧
        creation ⟨⟨-1, 0⟩, []⟩ = (.ok groups, after) ∧
        after.diagnostics = [⟨.warning, innerBlankMessage "d e" "x", "nds/x", 3, some 0⟩] := by
  have hseparator : IsSeparator ';' := ⟨by decide, by decide, by decide⟩
  have hlexemes : AreLexemes ';' [["a(b)".toList, "c".toList], ["d e".toList]] := by
    unfold AreLexemes
    decide +kernel
  have hpieces : Spread [["a(b)".toList, "c".toList], ["d e".toList]] _ :=
    @Spread.lexeme _ _ [] [] _ rfl rfl <| @Spread.blank _ _ [' '] (by decide) <|
      @Spread.lexeme _ _ [] [' '] _ rfl (by decide) .nil
  obtain ⟨groups, hgroups, hcreates⟩ := creates_separated "x" "nds/x" 0 ⟨1, "base", 0⟩ hseparator
    hlexemes hpieces (show Row.cell ⟨3, ["a\\(b\\) ~ c; ;d e "]⟩ 0 = _ by decide +kernel) 7
    ⟨⟨-1, 0⟩, []⟩
  obtain ⟨creation, after, hcreation, hrun, hdiagnostics⟩ := hcreates false
  refine ⟨groups, hgroups, creation, after, hcreation, hrun, hdiagnostics.trans ?_⟩
  decide +kernel

end

end Multi

end Wordbook
