import Wordbook.Proofs.Joined
import Wordbook.Proofs.Provider

/-!
# Blanks around cells

The cells of a source come without the blanks around them, which a cell from
elsewhere may still have. To grammars and dialects it makes no difference, even
where lexemes are separated by a blank.

* `Multi.lexemeParts_trim`: the lexemes of a cell, whatever separates them;
* `Grammar.createLexemes_trim`: what a grammar creates, its errors included;
* `Provider.lexemes_trimmed`: what a provider makes of a row.
-/

namespace Wordbook

open Text (isBlankText trim pieces)

namespace Multi

variable {separator : Char} {gap : List Char}

theorem filter_map_trim_of_blank {ps : List (List Char)} (h : ∀ p ∈ ps, isBlankText p) :
    (ps.map trim).filter (!·.isEmpty) = [] := by
  rw [List.filter_eq_nil_iff, List.forall_mem_map]
  intro p hp
  rw [Text.trim_eq_nil_iff.2 (h p hp)]
  decide

theorem lexemeParts_blank_append (h : isBlankText gap) (t : List Char) :
    lexemeParts separator (gap ++ t) = lexemeParts separator t := by
  obtain ⟨p, ps, ht⟩ := List.exists_cons_of_ne_nil (Text.pieces_ne_nil separator t)
  obtain ⟨gaps, last, hgap, hmeet⟩ := Text.exists_pieces_append separator gap ht
  have hblank := Text.isBlankText_of_mem_pieces separator h
  rw [hgap, List.forall_mem_append, List.forall_mem_singleton] at hblank
  rw [lexemeParts, lexemeParts, hmeet, ht, List.map_append, List.filter_append,
    filter_map_trim_of_blank hblank.1, List.nil_append, List.map_cons, List.map_cons,
    Text.trim_blank_append hblank.2]

theorem lexemeParts_append_blank (h : isBlankText gap) (t : List Char) :
    lexemeParts separator (t ++ gap) = lexemeParts separator t := by
  obtain ⟨first, gaps, hgap⟩ := List.exists_cons_of_ne_nil (Text.pieces_ne_nil separator gap)
  obtain ⟨ps, p, ht, hmeet⟩ := Text.exists_pieces_append separator t hgap
  have hblank := Text.isBlankText_of_mem_pieces separator h
  rw [hgap, List.forall_mem_cons] at hblank
  rw [lexemeParts, lexemeParts, hmeet, ht, List.append_cons, List.map_append, List.filter_append,
    filter_map_trim_of_blank hblank.2, List.append_nil, List.map_append, List.map_append,
    List.map_singleton, List.map_singleton, Text.trim_append_blank hblank.1]

/-- The separator itself may be a blank. Then trimming takes away empty lexemes. -/
theorem lexemeParts_trim (separator : Char) (cell : List Char) :
    lexemeParts separator (trim cell) = lexemeParts separator cell := by
  obtain ⟨before, after, hbefore, hafter, hcell⟩ := Text.exists_blanks_around cell
  conv => rhs; rw [hcell]
  rw [lexemeParts_append_blank hafter, lexemeParts_blank_append hbefore]

end Multi

theorem Cell.Parts.ofCell_trim (cell : List Char) (expected : Nat) :
    ofCell (trim cell) expected = ofCell cell expected := by
  rw [ofCell, Text.trim_trim, ← ofCell]

theorem Grammar.createLexemes_trim (g : Grammar) (slots : g.Slots) (tag : String) (ctx : Context)
    (cell : List Char) :
    g.createLexemes slots tag ctx (trim cell) = g.createLexemes slots tag ctx cell := by
  cases g with
  | noun style =>
    simp only [createLexemes, create, Noun.create, Text.isBlankText_trim, Cell.Parts.ofCell_trim]
  | verb =>
    simp only [createLexemes, create, Verb.create, Text.isBlankText_trim, Cell.Parts.ofCell_trim]
  | misc => simp only [createLexemes, create, Misc.create, Text.isBlankText_trim, Text.trim_trim]
  | multi separator allowMultiWord =>
    simp only [createLexemes, Multi.createLexemes, Multi.lexemeParts_trim]

namespace Row

/-- A row without the blanks around its cells, as rows come from a source. -/
def trimmed (row : Row) : Row :=
  ⟨row.line, row.cells.map fun cell => String.ofList (trim cell.toList)⟩

theorem toList_cell_trimmed (row : Row) (k : Nat) :
    (row.trimmed.cell k).toList = trim (row.cell k).toList := by
  rw [cell, cell, trimmed, List.getD_eq_getElem?_getD, List.getD_eq_getElem?_getD,
    List.getElem?_map]
  cases row.cells[k]? with
  | none => rfl
  | some cell => exact String.toList_ofList

end Row

theorem Creator.createLexemes_trimmed (c : Creator) (label : String) (orthographyId : Int64)
    (row : Row) :
    c.createLexemes label orthographyId row.trimmed = c.createLexemes label orthographyId row := by
  have hcell : c.cell row.trimmed = trim (c.cell row) := row.toList_cell_trimmed c.column
  have hparts : (c.lexemeParts row.trimmed).isEmpty = (c.lexemeParts row).isEmpty := by
    unfold lexemeParts
    split
    · rw [hcell, Multi.lexemeParts_trim]
    · rfl
  unfold createLexemes
  rw [hparts, hcell]
  cases c.slots with
  | none => rfl
  | some slots => exact congrArg Except.ok (c.grammar.createLexemes_trim ..)

theorem Dialects.cell_trimmed (row : Row) (column : Option Nat) :
    cell row.trimmed column = cell row column := by
  cases column with
  | none => rfl
  | some column => rw [cell, cell, row.toList_cell_trimmed, Text.trim_trim]

/-- The blanks around cells are of no account, neither for what is made of a row nor for why it
fails. -/
theorem Provider.lexemes_trimmed (p : Provider) (bound : BoundCreator) (tag : String) (row : Row) :
    p.lexemes bound tag row.trimmed = p.lexemes bound tag row := by
  have hdistribute (variants : List Variant) :
      p.dialects.distribute variants row.trimmed bound.dialectColumn =
        p.dialects.distribute variants row bound.dialectColumn := by
    rw [Dialects.distribute, Dialects.distribute, Dialects.cell_trimmed]
  simp only [lexemes, Creator.createLexemes_trimmed, hdistribute]

end Wordbook
