import Wordbook.Proofs.Joined
import Wordbook.Proofs.Rows
import Wordbook.Proofs.Encoding
import Wordbook.Proofs.Utf8

/-!
# Delimited sources

A table is written in lines of cells, each line with a line end of either kind.
Reading it back gives every line its own number and its own cells, and the
outcome that these two call for.

* `Delimited.Writes`: the texts that a table may be written as;
* `Config.outcome`: what a line comes to, by its number and its cells;
* `Importer.reads_delimited`: what reading the bytes of a table comes to.
-/

namespace Wordbook

namespace Text

/-- How the end of a line is written. -/
inductive LineEnd where
  | feed
  | returnFeed
  deriving DecidableEq, Repr

def LineEnd.text : LineEnd → List Char
  | feed => ['\n']
  | returnFeed => ['\r', '\n']

theorem lines_append_feed {line : List Char} (h : '\n' ∉ line) (t : List Char) :
    lines (line ++ '\n' :: t) = dropReturn line :: lines t := by
  have hne := pieces_ne_nil '\n' t
  have hlast : (line :: pieces '\n' t).getLast? = (pieces '\n' t).getLast? :=
    List.getLast?_cons_of_ne_nil hne
  unfold lines
  rw [pieces_append_cons h]
  dsimp only
  rw [List.dropLast_cons_of_ne_nil hne, hlast, List.map_cons]
  cases (pieces '\n' t).getLast? with
  | none => rfl
  | some last =>
    dsimp only
    split <;> rfl

theorem dropReturn_of_getLast? {line : List Char} (h : line.getLast? ≠ some '\r') :
    dropReturn line = line :=
  if_neg h

theorem dropReturn_append_return (line : List Char) : dropReturn (line ++ ['\r']) = line := by
  rw [dropReturn, if_pos List.getLast?_concat, List.dropLast_concat]

/-- A line is found without its end, whichever kind that is. -/
theorem lines_append_end {line : List Char} (h : '\n' ∉ line) (hreturn : line.getLast? ≠ some '\r')
    (e : LineEnd) (t : List Char) : lines (line ++ e.text ++ t) = line :: lines t := by
  cases e with
  | feed =>
    rw [LineEnd.text, List.append_assoc, List.singleton_append, lines_append_feed h,
      dropReturn_of_getLast? hreturn]
  | returnFeed =>
    have hline : '\n' ∉ line ++ ['\r'] := by simpa using h
    have hcut : line ++ ['\r', '\n'] ++ t = (line ++ ['\r']) ++ '\n' :: t := by simp
    rw [LineEnd.text, hcut, lines_append_feed hline, dropReturn_append_return]

theorem lines_of_not_mem {line : List Char} (h : '\n' ∉ line) (hne : line ≠ []) :
    lines line = [line] := by
  rw [lines, pieces_of_not_mem h]
  simp [hne]

end Text

/-! ## Tables -/

namespace Delimited

open Text

/-- A cell that can be told from those around it, and has no blanks at its ends. -/
@[mk_iff]
structure IsCell (separator : Char) (cell : String) : Prop where
  trim_eq : trim cell.toList = cell.toList
  separator_not_mem : separator ∉ cell.toList
  feed_not_mem : '\n' ∉ cell.toList

instance (separator : Char) (cell : String) : Decidable (IsCell separator cell) :=
  decidable_of_iff _ (isCell_iff separator cell).symm

/-- The text of a line with some cells. -/
def writeLine (separator : Char) (cells : List String) : List Char :=
  [separator].intercalate (cells.map String.toList)

/-- The texts that a table may be written as, line by line. The last line may do without an end,
unless it is empty. -/
inductive Writes (separator : Char) : List (List String) → List Char → Prop where
  | nil : Writes separator [] []
  | last {cells} : writeLine separator cells ≠ [] →
    Writes separator [cells] (writeLine separator cells)
  | line {cells table t} (e : LineEnd) : Writes separator table t →
    Writes separator (cells :: table) (writeLine separator cells ++ e.text ++ t)

/-- The texts that a text may be stored as: with a byte order mark before it, or without one if it
does not begin with that character itself. -/
inductive Marks (t : List Char) : List Char → Prop where
  | marked : Marks t ('\uFEFF' :: t)
  | plain : t.head? ≠ some '\uFEFF' → Marks t t

variable {separator : Char} {cells : List String} {table : List (List String)} {t : List Char}

theorem pieces_writeLine (hne : cells ≠ []) (h : ∀ cell ∈ cells, IsCell separator cell) :
    pieces separator (writeLine separator cells) = cells.map String.toList :=
  pieces_intercalate (by simpa using hne)
    (List.forall_mem_map.2 fun cell hcell => (h cell hcell).separator_not_mem)

theorem feed_not_mem_writeLine (hfeed : separator ≠ '\n')
    (h : ∀ cell ∈ cells, IsCell separator cell) : '\n' ∉ writeLine separator cells :=
  not_mem_intercalate (by simpa using hfeed.symm)
    (List.forall_mem_map.2 fun cell hcell => (h cell hcell).feed_not_mem)

theorem writeLine_cons_cons (separator : Char) (cell next : String) (cells : List String) :
    writeLine separator (cell :: next :: cells) =
      cell.toList ++ separator :: writeLine separator (next :: cells) := by
  rw [writeLine, List.map_cons, List.map_cons, List.intercalate_cons_cons, List.append_assoc]
  rfl

/-- A line ends as its last cell does, or with a separator before an empty cell. -/
theorem getLast?_writeLine_ne (hreturn : separator ≠ '\r')
    (h : ∀ cell ∈ cells, IsCell separator cell) :
    (writeLine separator cells).getLast? ≠ some '\r' := by
  induction cells with
  | nil => nofun
  | cons cell cells ih =>
    obtain ⟨hcell, hcells⟩ := List.forall_mem_cons.1 h
    cases cells with
    | nil =>
      intro hlast
      rw [writeLine, List.map_singleton, List.intercalate_singleton] at hlast
      exact absurd ((trim_eq_self_iff.1 hcell.trim_eq).2 _ hlast) (by decide)
    | cons next cells =>
      rw [writeLine_cons_cons, List.getLast?_append_cons]
      rcases hrest : writeLine separator (next :: cells) with _ | ⟨c, rest⟩
      · simpa using hreturn
      · rw [List.getLast?_cons_cons, ← hrest]
        exact ih hcells

theorem lines_of_writes (hfeed : separator ≠ '\n') (hreturn : separator ≠ '\r')
    (htable : ∀ cells ∈ table, ∀ cell ∈ cells, IsCell separator cell)
    (h : Writes separator table t) : lines t = table.map (writeLine separator) := by
  induction h with
  | nil => rfl
  | last hne =>
    exact lines_of_not_mem (feed_not_mem_writeLine hfeed (htable _ List.mem_cons_self)) hne
  | line e _ ih =>
    obtain ⟨hcells, htable⟩ := List.forall_mem_cons.1 htable
    rw [lines_append_end (feed_not_mem_writeLine hfeed hcells)
      (getLast?_writeLine_ne hreturn hcells), ih htable, List.map_cons]

/-- A text is stored with or without a byte order mark, and found without one. -/
theorem Marks.dropMark_eq {text : List Char} (h : Marks t text) : Source.dropMark text = t := by
  cases h with
  | marked => rfl
  | plain hhead =>
    unfold Source.dropMark
    split
    · exact absurd rfl hhead
    · rfl

theorem decode_writeUtf8 (codecs : Codecs) {text : List Char} (h : Marks t text) :
    Source.decode codecs (writeUtf8 text) none = .ok ⟨String.ofList t, "utf-8"⟩ := by
  rw [Source.decode_of_readUtf8? (readUtf8?_writeUtf8 text), h.dropMark_eq]

end Delimited

/-! ## Outcomes -/

namespace Config

open Delimited

/-- What a line comes to, by its number and its cells. -/
def outcome (c : Config) (keep : Row → Bool) (number : Nat) (cells : List String) : LineOutcome :=
  let tag := cells.getD c.posColumn ""
  let row : Row := ⟨number, cells ++ List.replicate (c.columnCount - cells.length) ""⟩
  if number ∈ c.skipLines then .skipped
  else if ∀ cell ∈ cells, cell = "" then .blank
  else if cells.length < c.minColumnCount then
    .rejected number (.tooShort cells.length c.minColumnCount) none
  else if ¬∃ p ∈ c.providers, ∃ creator ∈ p.creators, creator.tag = tag then
    .rejected number (.unknownPos tag) (some c.posColumn)
  else if keep row then .accepted row
  else .filtered

theorem mem_configuredPos_iff {c : Config} {tag : String} :
    tag ∈ c.configuredPos ↔ ∃ p ∈ c.providers, ∃ creator ∈ p.creators, creator.tag = tag := by
  rw [configuredPos, SortedSet.mem_ofList]
  simp

theorem isBlank_writeLine {layout : Row.Layout} {cells : List String} (hne : cells ≠ [])
    (h : ∀ cell ∈ cells, IsCell layout.separator cell) :
    layout.isBlank (writeLine layout.separator cells) ↔ ∀ cell ∈ cells, cell = "" := by
  rw [Row.Layout.isBlank, pieces_writeLine hne h, List.all_map, List.all_eq_true]
  refine forall₂_congr fun cell hcell => ?_
  rw [Function.comp_apply, ← Text.trim_eq_nil_iff, (h cell hcell).trim_eq, String.toList_eq_nil_iff]

theorem split_writeLine {layout : Row.Layout} {cells : List String} (number : Nat)
    (hne : cells ≠ []) (h : ∀ cell ∈ cells, IsCell layout.separator cell) :
    layout.split number (writeLine layout.separator cells) =
      if cells.length < layout.minColumnCount then
        .error (.tooShort cells.length layout.minColumnCount)
      else .ok (Row.padded number cells layout.columnCount) := by
  have hcells : (cells.map String.toList).map (fun t => String.ofList (Text.trim t)) = cells := by
    rw [List.map_map]
    refine (List.map_congr_left fun cell hcell => ?_).trans cells.map_id
    rw [Function.comp_apply, (h cell hcell).trim_eq, String.ofList_toList, id]
  rw [Row.Layout.split, pieces_writeLine hne h, hcells]

/-- A line that is written is read as its cells are. -/
theorem readLine_writeLine {c : Config} (keep : Row → Bool) (number : Nat) {cells : List String}
    (hne : cells ≠ []) (h : ∀ cell ∈ cells, IsCell c.separator cell) :
    c.readLine keep number (writeLine c.separator cells) = c.outcome keep number cells := by
  have hblank : c.layout.isBlank (writeLine c.separator cells) ↔ ∀ cell ∈ cells, cell = "" :=
    isBlank_writeLine hne h
  have hsplit : c.layout.split number (writeLine c.separator cells) =
      if cells.length < c.minColumnCount then
        .error (.tooShort cells.length c.minColumnCount)
      else .ok (Row.padded number cells c.columnCount) :=
    split_writeLine number hne h
  unfold readLine outcome
  dsimp only
  by_cases hskip : number ∈ c.skipLines
  · rw [if_pos hskip, if_pos hskip]
  rw [if_neg hskip, if_neg hskip]
  by_cases hempty : ∀ cell ∈ cells, cell = ""
  · rw [if_pos (hblank.2 hempty), if_pos hempty]
  rw [if_neg (mt hblank.1 hempty), if_neg hempty, hsplit]
  by_cases hshort : cells.length < c.minColumnCount
  · rw [if_pos hshort, if_pos hshort]
  rw [if_neg hshort, if_neg hshort]
  dsimp only
  rw [readRow, Row.cell_padded]
  simp only [mem_configuredPos_iff]
  rfl

theorem readLines_writes {c : Config} (keep : Row → Bool) {table : List (List String)}
    {t : List Char} (encoding : String) (hfeed : c.separator ≠ '\n') (hreturn : c.separator ≠ '\r')
    (htable : ∀ cells ∈ table, cells ≠ [] ∧ ∀ cell ∈ cells, IsCell c.separator cell)
    (h : Writes c.separator table t) :
    c.readLines keep ⟨String.ofList t, encoding⟩ =
      (table.zipIdx 1).map fun (cells, number) => c.outcome keep number cells := by
  have hlines := lines_of_writes hfeed hreturn (fun cells hcells => (htable cells hcells).2) h
  rw [readLines, Source.numberedLines, String.toList_ofList, hlines, List.zipIdx_map, List.map_map,
    List.map_map]
  refine List.map_congr_left fun line hmem => ?_
  obtain ⟨cells, number⟩ := line
  obtain ⟨hne, hcells⟩ := htable cells (List.fst_mem_of_mem_zipIdx hmem)
  exact readLine_writeLine keep number hne hcells

end Config

namespace Importer

open Delimited

/-- A run that has read a source, by what its lines come to. -/
structure HasRead (encoding : String) (outcomes : List LineOutcome) (i : Importer) : Prop where
  state : i.state = .reading
  encoding : i.sourceEncoding = some encoding
  rows : i.rows = outcomes.filterMap (·.row?)
  diagnostics : i.diagnostics.entries = outcomes.filterMap (·.diagnostic?)
  skipped : i.stats.skippedLines = outcomes.countP (·.isSkipped)
  blank : i.stats.blankLines = outcomes.countP (·.isBlank)
  rejected : i.stats.rowsRejected = outcomes.countP (·.isRejected)
  filtered : i.stats.rowsFiltered = outcomes.countP (·.isFiltered)
  accepted : i.stats.rowsAccepted = outcomes.countP (·.isAccepted)

theorem Setup.eq_initialised {s : Setup} {now : String} {i : Importer}
    (h : s.importer.initialise now = (.ok (), i)) : i = s.initialised none := by
  cases hresolve : s.config.resolve s.reference with
  | ok providers =>
    obtain rfl := Setup.providers_eq hresolve
    rw [Setup.initialise_of_ok hresolve] at h
    exact (Prod.mk.inj h).2.symm
  | error e =>
    rw [Setup.initialise_of_error hresolve] at h
    nomatch h

variable {s : Setup} {table : List (List String)} {t text : List Char}

/-- Whatever line ends and byte order mark a table is written with, each of its lines is read under
its own number, by its own cells. -/
theorem reads_delimited (hencoding : s.encoding = none) (hfeed : s.config.separator ≠ '\n')
    (hreturn : s.config.separator ≠ '\r')
    (htable : ∀ cells ∈ table, cells ≠ [] ∧ ∀ cell ∈ cells, IsCell s.config.separator cell)
    (hwrites : Writes s.config.separator table t) (hmarks : Marks t text) {now : String}
    {i : Importer} (hinitialise : s.importer.initialise now = (.ok (), i)) (later : String) :
    ∃ j, i.readBytes later (Text.writeUtf8 text) = (.ok (), j) ∧
      HasRead "utf-8" ((table.zipIdx 1).map fun (cells, number) =>
        s.config.outcome s.keep number cells) j := by
  obtain rfl := Setup.eq_initialised hinitialise
  have hdecode : Source.decode s.codecs (Text.writeUtf8 text) s.encoding =
      .ok ⟨String.ofList t, "utf-8"⟩ := by
    rw [hencoding, decode_writeUtf8 s.codecs hmarks]
  rw [← Config.readLines_writes s.keep "utf-8" hfeed hreturn htable hwrites]
  exact ⟨_, readSource_of_ok hdecode, rfl, rfl, rfl, rfl, rfl, rfl, rfl, rfl, rfl⟩

/-- A language with one creator, whose rows have two cells at least and whose first line is passed
over. -/
def Setup.headed : Setup :=
  { Setup.sample .misc with
    config := { (Setup.sample .misc).config with
      columnCount := 4, minColumnCount := 2, skipLines := SortedSet.singleton 1 } }

/-- Lines with ends of both kinds behind a byte order mark, and a last line without an end. -/
theorem reads_delimited_headed :
    ∃ i j, Setup.headed.importer.initialise "" = (.ok (), i) ∧
      i.readBytes "" (Text.writeUtf8 "\uFEFFpos\ttext\r\n\nx\ny\ta\r\nx\ta\tb".toList) =
        (.ok (), j) ∧
      j.rows = [⟨5, ["x", "a", "b", ""]⟩] ∧
      j.diagnostics.entries =
        [⟨.error, "row has 1 columns, at least 2 required", "reader", 3, none⟩,
          ⟨.error, "no creator configured for part of speech 'y'", "reader", 4, some 0⟩] ∧
      j.stats.skippedLines = 1 ∧ j.stats.blankLines = 1 := by
  have hwrites : Writes '\t' [["pos", "text"], [""], ["x"], ["y", "a"], ["x", "a", "b"]]
      "pos\ttext\r\n\nx\ny\ta\r\nx\ta\tb".toList :=
    .line .returnFeed (.line .feed (.line .feed (.line .returnFeed (.last (by decide)))))
  obtain ⟨providers, hresolve⟩ :
      ∃ ps, Setup.headed.config.resolve Setup.headed.reference = .ok ps := ⟨_, rfl⟩
  obtain rfl := Setup.providers_eq hresolve
  have hinitialise :
      Setup.headed.importer.initialise "" = (.ok (), Setup.headed.initialised none) :=
    Setup.initialise_of_ok hresolve
  obtain ⟨j, hread, h⟩ := reads_delimited rfl (by decide) (by decide) (by decide) hwrites .marked
    hinitialise ""
  exact ⟨_, j, hinitialise, hread, h.rows.trans (by decide), h.diagnostics.trans (by decide),
    h.skipped.trans (by decide), h.blank.trans (by decide)⟩

end Importer

end Wordbook
