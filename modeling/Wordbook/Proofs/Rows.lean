import Wordbook.Proofs.Chain
import Wordbook.Proofs.Run

/-!
# The rows of a source

Each line of a source has a number of its own, which its row and all that comes
of it bear. So what a run says about a line is what that line comes to.

* `buildRows_spec`: the rows, one after another, with their ids;
* `Importer.Done.of_mem_trace`, `Importer.Done.of_row?_eq_none`: what a run says
  about a line, and makes of it.
-/

namespace Wordbook

section

variable {α β κ : Type} [BEq κ] [LawfulBEq κ] (key : α → κ) (keyOf : β → κ) {f : α → List β}
  {as : List α}

theorem filter_flatMap_of_forall_ne (hf : ∀ a ∈ as, ∀ b ∈ f a, keyOf b = key a) {k : κ}
    (h : ∀ a ∈ as, key a ≠ k) : (as.flatMap f).filter (keyOf · == k) = [] := by
  refine List.filter_eq_nil_iff.2 fun b hb => ?_
  obtain ⟨a, ha, hb⟩ := List.mem_flatMap.1 hb
  rw [hf a ha b hb, beq_iff_eq]
  exact h a ha

/-- What bears the key of an element comes from it, where no other has that key. -/
theorem filter_flatMap_of_mem (has : as.Pairwise (key · ≠ key ·))
    (hf : ∀ a ∈ as, ∀ b ∈ f a, keyOf b = key a) {a : α} (ha : a ∈ as) :
    (as.flatMap f).filter (keyOf · == key a) = f a := by
  induction as with
  | nil => nomatch ha
  | cons c as ih =>
    obtain ⟨hc, hpairwise⟩ := List.pairwise_cons.1 has
    obtain ⟨hfc, hfas⟩ := List.forall_mem_cons.1 hf
    rw [List.flatMap_cons, List.filter_append]
    rcases List.mem_cons.1 ha with rfl | ha
    · rw [filter_flatMap_of_forall_ne key keyOf hfas fun b hb => (hc b hb).symm, List.append_nil]
      exact List.filter_eq_self.2 fun b hb => beq_iff_eq.2 (hfc b hb)
    · rw [ih hpairwise hfas ha, List.filter_eq_nil_iff.2, List.nil_append]
      intro b hb
      rw [hfc b hb, beq_iff_eq]
      exact hc a ha

end

/-- What bears ascending keys stands in their order. -/
theorem pairwise_le_flatMap {α β : Type} (key : α → Nat) (keyOf : β → Nat) {f : α → List β}
    {as : List α} (has : as.Pairwise (key · < key ·)) (hf : ∀ a ∈ as, ∀ b ∈ f a, keyOf b = key a) :
    (as.flatMap f).Pairwise (keyOf · ≤ keyOf ·) := by
  rw [List.pairwise_flatMap]
  refine ⟨fun a ha => List.pairwise_iff_forall_sublist.2 fun hsub => ?_, ?_⟩
  · rw [hf a ha _ (hsub.subset (by simp)), hf a ha _ (hsub.subset (by simp))]
  · refine has.imp_of_mem fun ha hb hlt c hc d hd => ?_
    rw [hf _ ha c hc, hf _ hb d hd]
    exact Nat.le_of_lt hlt

theorem Source.pairwise_numberedLines (source : Source) :
    source.numberedLines.Pairwise (·.1 < ·.1) := by
  rw [← List.pairwise_map, numberedLines, List.map_map]
  show ((Text.lines source.content.toList).zipIdx 1 |>.map Prod.snd).Pairwise (· < ·)
  rw [List.zipIdx_map_snd]
  exact List.pairwise_lt_range'

theorem Source.mem_numberedLines_iff {source : Source} {k : Nat} {text : List Char} :
    (k, text) ∈ source.numberedLines ↔
      1 ≤ k ∧ (Text.lines source.content.toList)[k - 1]? = some text := by
  rw [← List.mk_mem_zipIdx_iff_le_and_getElem?_sub, numberedLines, List.mem_map]
  constructor
  · rintro ⟨⟨text, k⟩, h, heq⟩
    obtain ⟨rfl, rfl⟩ := Prod.mk.inj heq
    exact h
  · exact fun h => ⟨(text, k), h, rfl⟩

theorem Source.text_unique {source : Source} {k : Nat} {text text' : List Char}
    (h : (k, text) ∈ source.numberedLines) (h' : (k, text') ∈ source.numberedLines) :
    text = text' :=
  Option.some.inj ((mem_numberedLines_iff.1 h).2.symm.trans (mem_numberedLines_iff.1 h').2)

theorem Row.Layout.split_line (layout : Layout) (k l : Nat) (text : List Char) :
    layout.split l text = (layout.split k text).map fun row => { row with line := l } := by
  unfold split
  dsimp only
  split <;> rfl

theorem Row.Layout.line_of_split {layout : Layout} {number : Nat} {text : List Char} {row : Row}
    (h : layout.split number text = .ok row) : row.line = number := by
  rw [layout.split_line number number] at h
  obtain ⟨row, -, rfl⟩ := map_eq_ok_iff.1 h
  rfl

theorem LineOutcome.row?_eq_some_iff {o : LineOutcome} {row : Row} :
    o.row? = some row ↔ o = .accepted row := by
  cases o <;> simp [row?]

/-- An outcome, as it is on another line. -/
def LineOutcome.atLine (line : Nat) : LineOutcome → LineOutcome
  | rejected _ error column => rejected line error column
  | accepted row => accepted { row with line := line }
  | o => o

namespace Config

variable {c : Config} {keep : Row → Bool}

theorem readRow_atLine (hkeep : ∀ row row' : Row, row.cells = row'.cells → keep row = keep row')
    (row : Row) (line : Nat) :
    c.readRow keep { row with line := line } = (c.readRow keep row).atLine line := by
  unfold readRow
  rw [hkeep { row with line := line } row rfl]
  show (if row.cell c.posColumn ∉ c.configuredPos then _ else _) = _
  dsimp only
  split
  · rfl
  · split <;> rfl

/-- What becomes of a line hangs on its text alone, if it is not passed over. -/
theorem readLine_atLine (hkeep : ∀ row row' : Row, row.cells = row'.cells → keep row = keep row')
    {k l : Nat} (hk : k ∉ c.skipLines) (hl : l ∉ c.skipLines) (text : List Char) :
    c.readLine keep l text = (c.readLine keep k text).atLine l := by
  rw [readLine, readLine, if_neg hk, if_neg hl, c.layout.split_line k l]
  split
  · rfl
  · cases c.layout.split k text with
    | error e => rfl
    | ok row => exact readRow_atLine hkeep row l

/-- A line that leaves a trace is rejected, or accepted as it is cut into cells. -/
theorem readLine_cases (c : Config) (keep : Row → Bool) (number : Nat) (text : List Char) :
    (c.readLine keep number text).row? = none ∧ (c.readLine keep number text).diagnostic? = none ∨
    (∃ error column, c.readLine keep number text = .rejected number error column) ∨
    ∃ row, c.layout.split number text = .ok row ∧ c.readLine keep number text = .accepted row := by
  unfold readLine
  split
  · exact .inl ⟨rfl, rfl⟩
  · split
    · exact .inl ⟨rfl, rfl⟩
    · cases hsplit : c.layout.split number text with
      | error e => exact .inr (.inl ⟨_, _, rfl⟩)
      | ok row =>
        dsimp only [readRow]
        split
        · exact .inr (.inl ⟨_, _, by rw [Row.Layout.line_of_split hsplit]⟩)
        · split
          · exact .inr (.inr ⟨row, rfl, rfl⟩)
          · exact .inl ⟨rfl, rfl⟩

theorem line_of_row? {number : Nat} {text : List Char} {row : Row}
    (h : (c.readLine keep number text).row? = some row) : row.line = number := by
  rcases c.readLine_cases keep number text with ⟨hrow, -⟩ | ⟨_, _, hr⟩ | ⟨row', hsplit, ha⟩
  · nomatch h.symm.trans hrow
  · rw [hr] at h
    nomatch h
  · rw [ha] at h
    rw [← Option.some.inj h]
    exact Row.Layout.line_of_split hsplit

theorem of_diagnostic? {number : Nat} {text : List Char} {d : Diagnostic}
    (h : (c.readLine keep number text).diagnostic? = some d) :
    d.line = number ∧ (c.readLine keep number text).row? = none := by
  rcases c.readLine_cases keep number text with ⟨-, hd⟩ | ⟨_, _, hr⟩ | ⟨row', -, ha⟩
  · nomatch h.symm.trans hd
  · rw [hr] at h ⊢
    rw [← Option.some.inj h]
    exact ⟨rfl, rfl⟩
  · rw [ha] at h
    nomatch h

end Config

/-! ## What rows come to -/

/-- The columns that a creator reads. -/
def BoundCreator.columns (bound : BoundCreator) : List Nat :=
  bound.creator.column :: bound.dialectColumn.toList

theorem CreatorConfig.of_resolve {table : Paradigm.Table} {c : CreatorConfig}
    {bound : BoundCreator} (h : c.resolve table = .ok bound) :
    bound.creator.tag = c.tag ∧ bound.creator.isInitialised ∧ bound.columns = c.columns := by
  obtain ⟨p, -, h⟩ := bind_eq_ok_iff.1 h
  obtain ⟨creator, hcreator, h⟩ := bind_eq_ok_iff.1 h
  obtain rfl := Except.ok.inj h
  obtain ⟨slots, -, rfl⟩ := map_eq_ok_iff.1 hcreator
  exact ⟨rfl, rfl, rfl⟩

/-- A provider is set up from one of the configuration, and each creator from one of its own. -/
theorem Config.exists_of_mem_resolve {c : Config} {reference : Reference} {ps : List Provider}
    (h : c.resolve reference = .ok ps) {p : Provider} (hp : p ∈ ps) :
    ∃ pc ∈ c.providers, reference.language? pc.language = some p.language ∧
      ∀ bound ∈ p.creators, ∃ cc ∈ pc.creators,
        bound.creator.tag = cc.tag ∧ bound.creator.isInitialised ∧
          bound.columns = cc.columns := by
  obtain ⟨table, -, h⟩ := bind_eq_ok_iff.1 h
  obtain ⟨pc, hpc, hresolve⟩ := exists_of_mem_mapM h hp
  unfold ProviderConfig.resolve at hresolve
  split at hresolve
  · nomatch hresolve
  · rename_i language hlanguage
    obtain ⟨creators, hcreators, hresolve⟩ := bind_eq_ok_iff.1 hresolve
    obtain rfl := Except.ok.inj hresolve
    refine ⟨pc, hpc, hlanguage, fun bound hbound => ?_⟩
    obtain ⟨cc, hcc, hresolve⟩ := exists_of_mem_mapM hcreators hbound
    exact ⟨cc, hcc, CreatorConfig.of_resolve hresolve⟩

/-- The providers of a run can be used. -/
theorem Config.isReady_of_resolve {c : Config} {reference : Reference} {ps : List Provider}
    (h : c.resolve reference = .ok ps) : ∀ p ∈ ps, p.IsReady := by
  intro p hp bound hbound
  obtain ⟨_, -, -, hcreators⟩ := Config.exists_of_mem_resolve h hp
  obtain ⟨_, -, -, hinitialised, -⟩ := hcreators bound hbound
  exact hinitialised

/-- The creators of a provider that is ready are never at fault. -/
theorem exists_buildRows {ps : List Provider} (hps : ∀ p ∈ ps, p.IsReady) (posColumn : Nat)
    (rows : List Row) (first : Int64) :
    ∃ results, buildRows ps posColumn rows first = .ok results := by
  induction rows generalizing first with
  | nil => exact ⟨[], rfl⟩
  | cons row rows ih =>
    obtain ⟨s, -, hs⟩ := exists_buildRow_eq hps posColumn row
    obtain ⟨rest, hrest⟩ := ih (s.result (row.cell posColumn) row first).nextId
    refine ⟨s.result (row.cell posColumn) row first :: rest, ?_⟩
    rw [buildRows, hs row rfl]
    show (buildRows ps posColumn rows _ >>= _) = _
    rw [hrest]
    rfl

theorem buildRow_first {ps : List Provider} (hps : ∀ p ∈ ps, p.IsReady) {posColumn : Nat}
    {row : Row} {first : Int64} {r : RowResult} (h : buildRow ps posColumn row first = .ok r) :
    r.ids.first = first := by
  obtain ⟨s, -, hs⟩ := exists_buildRow_eq hps posColumn row
  rw [hs row rfl] at h
  rw [← Except.ok.inj h]
  rfl

/-- The rows are built one after another, and no id is left out between them. -/
theorem buildRows_spec {ps : List Provider} (hps : ∀ p ∈ ps, p.IsReady) {posColumn : Nat}
    {rows : List Row} {first : Int64} {results : List RowResult}
    (h : buildRows ps posColumn rows first = .ok results) :
    List.Forall₂ (fun row r => buildRow ps posColumn row r.ids.first = .ok r) rows results ∧
      results.flatMap (·.ids.members) = countdown first (results.map (·.ids.drawn)).sum := by
  induction rows generalizing first results with
  | nil =>
    obtain rfl := Except.ok.inj h
    exact ⟨.nil, rfl⟩
  | cons row rows ih =>
    obtain ⟨r, hr, h⟩ := bind_eq_ok_iff.1 h
    obtain ⟨rest, hrest, h⟩ := bind_eq_ok_iff.1 h
    obtain rfl := Except.ok.inj h
    obtain rfl := buildRow_first hps hr
    obtain ⟨hrows, hmembers⟩ := ih hrest
    refine ⟨.cons hr hrows, ?_⟩
    rw [List.flatMap_cons, hmembers, List.map_cons, List.sum_cons, countdown_add]
    rfl

/-- If the ids of all rows do not wrap, neither do those of any of them. -/
theorem fits_of_buildRows {ps : List Provider} (hps : ∀ p ∈ ps, p.IsReady) {posColumn : Nat}
    {rows : List Row} {first : Int64} {results : List RowResult}
    (h : buildRows ps posColumn rows first = .ok results)
    (hfits : IdSequence.Fits ⟨first, (results.map (·.ids.drawn)).sum⟩) :
    ∀ r ∈ results, r.ids.Fits := by
  induction rows generalizing first results with
  | nil =>
    obtain rfl := Except.ok.inj h
    nofun
  | cons row rows ih =>
    obtain ⟨r, hr, h⟩ := bind_eq_ok_iff.1 h
    obtain ⟨rest, hrest, h⟩ := bind_eq_ok_iff.1 h
    obtain rfl := Except.ok.inj h
    obtain rfl := buildRow_first hps hr
    obtain ⟨hr, hfits⟩ := hfits.split
    exact List.forall_mem_cons.2 ⟨hr, ih hrest hfits⟩

theorem RowResult.mem_getD_bundles_iff {r : RowResult} {b : Bundle} :
    b ∈ r.bundles.getD [] ↔ ∃ bundles, r.bundles = some bundles ∧ b ∈ bundles := by
  cases r.bundles <;> simp

/-- All that comes of a row bears its line. -/
theorem line_of_buildRow {ps : List Provider} (hps : ∀ p ∈ ps, p.IsReady) {posColumn : Nat}
    {row : Row} {first : Int64} {r : RowResult} (h : buildRow ps posColumn row first = .ok r) :
    (∀ d ∈ r.diagnostics, d.line = row.line) ∧ ∀ b ∈ r.bundles.getD [], b.line = row.line := by
  obtain ⟨⟨remarks, drawn, outcome⟩, -, hs⟩ := exists_buildRow_eq hps posColumn row
  rw [hs row rfl] at h
  obtain rfl := Except.ok.inj h
  refine ⟨List.forall_mem_append.2 ⟨List.forall_mem_map.2 fun _ _ => rfl, ?_⟩, ?_⟩
  · cases outcome with
    | ok bs => nofun
    | error failure => exact List.forall_mem_singleton.2 rfl
  · cases outcome with
    | error failure => nofun
    | ok bs =>
      intro b hb
      obtain ⟨_, _, _, rfl⟩ := BundleDraft.mem_bundles hb
      rfl

/-! ## Runs that are done -/

namespace Importer

/-- The rows that are accepted of a source, each with what it comes to. -/
def Setup.trace (s : Setup) (source : Source) : List (Row × RowResult) :=
  (s.rows source).zip (s.results source)

theorem Setup.pairwise_rows (s : Setup) (source : Source) :
    (s.rows source).Pairwise (·.line < ·.line) := by
  rw [rows, Config.readLines, List.filterMap_map]
  refine source.pairwise_numberedLines.filterMap _ fun a b hab row hrow row' hrow' => ?_
  rw [Config.line_of_row? hrow, Config.line_of_row? hrow']
  exact hab

theorem Setup.exists_line {s : Setup} {source : Source} {row : Row} (h : row ∈ s.rows source) :
    ∃ text, (row.line, text) ∈ source.numberedLines ∧
      s.config.readLine s.keep row.line text = .accepted row := by
  obtain ⟨o, ho, hrow⟩ := List.mem_filterMap.1 h
  obtain ⟨⟨number, text⟩, hline, rfl⟩ := List.mem_map.1 ho
  obtain rfl := Config.line_of_row? hrow
  exact ⟨text, hline, LineOutcome.row?_eq_some_iff.1 hrow⟩

theorem Setup.mem_rows {s : Setup} {source : Source} {k : Nat} {text : List Char} {row : Row}
    (hk : (k, text) ∈ source.numberedLines)
    (h : s.config.readLine s.keep k text = .accepted row) : row ∈ s.rows source :=
  List.mem_filterMap.2 ⟨_, List.mem_map_of_mem hk, LineOutcome.row?_eq_some_iff.2 h⟩

namespace Done

variable {s : Setup} {source : Source} {i : Importer}

theorem isReady (h : Done s source i) : ∀ p ∈ s.providers, p.IsReady :=
  Config.isReady_of_resolve h.resolve_eq

theorem map_fst_trace (h : Done s source i) : (s.trace source).map Prod.fst = s.rows source :=
  List.map_fst_zip (buildRows_spec h.isReady h.buildRows_eq).1.length_eq.le

theorem map_snd_trace (h : Done s source i) : (s.trace source).map Prod.snd = s.results source :=
  List.map_snd_zip (buildRows_spec h.isReady h.buildRows_eq).1.length_eq.ge

theorem buildRow_eq (h : Done s source i) {row : Row} {r : RowResult}
    (hr : (row, r) ∈ s.trace source) :
    buildRow s.providers s.config.posColumn row r.ids.first = .ok r :=
  List.forall₂_zip (buildRows_spec h.isReady h.buildRows_eq).1 hr

theorem fits_of_mem (h : Done s source i) (hfits : (s.ids source).Fits) {row : Row}
    {r : RowResult} (hr : (row, r) ∈ s.trace source) : r.ids.Fits :=
  fits_of_buildRows h.isReady h.buildRows_eq hfits r (List.of_mem_zip hr).2

theorem pairwise_trace (h : Done s source i) :
    (s.trace source).Pairwise (·.1.line < ·.1.line) := by
  have := s.pairwise_rows source
  rwa [← h.map_fst_trace, List.pairwise_map] at this

theorem bundles_eq_trace (h : Done s source i) :
    i.bundles = (s.trace source).flatMap fun t => t.2.bundles.getD [] := by
  rw [h.bundles_eq, ← h.map_snd_trace, List.flatMap_map]

theorem mem_bundles_iff (h : Done s source i) {b : Bundle} :
    b ∈ i.bundles ↔ ∃ row r bundles, (row, r) ∈ s.trace source ∧ r.bundles = some bundles ∧
      b ∈ bundles := by
  rw [h.bundles_eq_trace, List.mem_flatMap]
  constructor
  · rintro ⟨⟨row, r⟩, hr, hb⟩
    obtain ⟨bundles, hbundles, hb⟩ := RowResult.mem_getD_bundles_iff.1 hb
    exact ⟨row, r, bundles, hr, hbundles, hb⟩
  · rintro ⟨row, r, bundles, hr, hbundles, hb⟩
    exact ⟨(row, r), hr, RowResult.mem_getD_bundles_iff.2 ⟨bundles, hbundles, hb⟩⟩

/-- A row has bundles only if all providers succeed on it. -/
theorem succeeds_of_bundles (h : Done s source i) {row : Row} {r : RowResult}
    (hr : (row, r) ∈ s.trace source) {bundles : List Bundle} (hbundles : r.bundles = some bundles) :
    ∀ p ∈ s.providers, p.Succeeds (row.cell s.config.posColumn) row := by
  have hbuild := h.buildRow_eq hr
  rcases Provider.succeed_or_first_fails h.isReady (row.cell s.config.posColumn) row with
    hsucceed | ⟨before, p, after, failure, hps, hbefore, hfails⟩
  · exact hsucceed
  · rw [hps] at hbuild
    have hnone := (buildRow_of_fails (hps ▸ h.isReady) hbefore hfails hbuild).1
    nomatch hbundles.symm.trans hnone

theorem diagnostics_eq_trace (h : Done s source i) : i.diagnostics.entries =
    s.rejections source ++ (s.trace source).flatMap (·.2.diagnostics) := by
  rw [h.diagnostics_eq, ← h.map_snd_trace, List.flatMap_map]

theorem exists_result (h : Done s source i) {row : Row} (hrow : row ∈ s.rows source) :
    ∃ r, (row, r) ∈ s.trace source := by
  rw [← h.map_fst_trace] at hrow
  obtain ⟨⟨row, r⟩, hr, rfl⟩ := List.mem_map.1 hrow
  exact ⟨r, hr⟩

/-- What a run says about a line is said when the line is read, or when its row is built. -/
theorem forLine_eq (h : Done s source i) {k : Nat} {text : List Char}
    (hk : (k, text) ∈ source.numberedLines) :
    i.diagnostics.forLine k = (s.config.readLine s.keep k text).diagnostic?.toList ++
      ((s.trace source).flatMap (·.2.diagnostics)).filter (·.line == k) := by
  rw [Diagnostics.forLine, h.diagnostics_eq_trace, List.filter_append, Setup.rejections,
    Config.readLines, List.filterMap_map, List.filterMap_eq_flatMap_toList]
  have hlines : ∀ a ∈ source.numberedLines,
      ∀ d ∈ (s.config.readLine s.keep a.1 a.2).diagnostic?.toList, d.line = a.1 :=
    fun a _ d hd => (Config.of_diagnostic? (Option.mem_toList.1 hd)).1
  have hread := filter_flatMap_of_mem Prod.fst Diagnostic.line
    (source.pairwise_numberedLines.imp Nat.ne_of_lt) hlines hk
  generalize s.trace source = trace
  exact congrArg (· ++ _) hread

/-- A row answers for its line alone, and nothing else does. -/
theorem of_mem_trace (h : Done s source i) {row : Row} {r : RowResult}
    (hr : (row, r) ∈ s.trace source) :
    i.diagnostics.forLine row.line = r.diagnostics ∧
      i.bundles.filter (·.line == row.line) = r.bundles.getD [] := by
  let line (t : Row × RowResult) : Nat := t.1.line
  have hne : (s.trace source).Pairwise (line · ≠ line ·) := h.pairwise_trace.imp Nat.ne_of_lt
  have hlines (t) (ht : t ∈ s.trace source) := line_of_buildRow h.isReady (h.buildRow_eq ht)
  obtain ⟨text, hline, haccepted⟩ := Setup.exists_line (List.of_mem_zip hr).1
  rw [h.forLine_eq hline, haccepted, h.bundles_eq_trace]
  generalize s.trace source = trace at hr hne hlines
  exact ⟨filter_flatMap_of_mem line Diagnostic.line hne (fun t ht => (hlines t ht).1) hr,
    filter_flatMap_of_mem line Bundle.line hne (fun t ht => (hlines t ht).2) hr⟩

/-- A line without a row has no bundles, and one diagnostic at most. -/
theorem of_row?_eq_none (h : Done s source i) {k : Nat} {text : List Char}
    (hk : (k, text) ∈ source.numberedLines)
    (hnone : (s.config.readLine s.keep k text).row? = none) :
    i.diagnostics.forLine k = (s.config.readLine s.keep k text).diagnostic?.toList ∧
      i.bundles.filter (·.line == k) = [] := by
  have hlines (t) (ht : t ∈ s.trace source) := line_of_buildRow h.isReady (h.buildRow_eq ht)
  have hne : ∀ t ∈ s.trace source, t.1.line ≠ k := by
    rintro t ht rfl
    obtain ⟨text', hline, haccepted⟩ := Setup.exists_line (List.of_mem_zip ht).1
    rw [Source.text_unique hk hline, haccepted] at hnone
    nomatch hnone
  rw [h.forLine_eq hk, h.bundles_eq_trace]
  rw [filter_flatMap_of_forall_ne (·.1.line) Diagnostic.line (fun t ht => (hlines t ht).1) hne,
    List.append_nil]
  exact ⟨rfl, filter_flatMap_of_forall_ne (·.1.line) Bundle.line (fun t ht => (hlines t ht).2) hne⟩

end Done

/-- With reference data that is complete, every source that can be decoded is built. -/
theorem Setup.exists_run (s : Setup) (source : Source) (bytes : List UInt8)
    (hresolve : (s.config.resolve s.reference).isOk)
    (hdecode : (Source.decode s.codecs bytes s.encoding).toOption = some source) :
    ∃ i, Run s [source] i ∧ i.state = .done := by
  have hproviders : s.config.resolve s.reference = .ok s.providers := by
    cases h : s.config.resolve s.reference with
    | error e => rw [h] at hresolve; cases hresolve
    | ok providers => rw [Setup.providers_eq h]
  have hsource : Source.decode s.codecs bytes s.encoding = .ok source := by
    cases h : Source.decode s.codecs bytes s.encoding with
    | error e => rw [h] at hdecode; cases hdecode
    | ok source' => rw [h] at hdecode; rw [Option.some.inj hdecode]
  obtain ⟨results, hresults⟩ := exists_buildRows (Config.isReady_of_resolve hproviders)
    s.config.posColumn (s.rows source) s.first
  have hinitialise : s.importer.step "" .initialise = .ok (.ok (), s.initialised none) :=
    congrArg Except.ok (Setup.initialise_of_ok hproviders)
  have hread : (s.initialised none).step "" (.readBytes bytes) =
      .ok (.ok (), (s.initialised none).accept source) :=
    congrArg Except.ok (readSource_of_ok hsource)
  have hbuild : ((s.initialised none).accept source).step "" .build = .ok (.ok (), finish
      { (s.initialised none).accept source with state := .building, rows := [] } "" results) := by
    show (buildRows s.providers s.config.posColumn (s.rows source) s.first >>= _) = _
    rw [hresults]
    rfl
  have hrun := ((Run.begin.step hinitialise).step hread).step hbuild
  rw [Step.sources, Step.sources, Step.sources, Step.source?, Step.source?, Step.source?,
    hdecode] at hrun
  exact ⟨_, hrun, rfl⟩

/-- A run on a file that can be decoded builds its rows. -/
theorem Setup.run_eq_finish {s : Setup} {source : Source} {bytes : List UInt8}
    (hresolve : s.config.resolve s.reference = .ok s.providers)
    (hdecode : Source.decode s.codecs bytes s.encoding = .ok source) (now path : String) :
    s.importer.run now path (.ok bytes) = .ok (.ok (), finish
      { (s.initialised (some path)).accept source with state := .building, rows := [] } now
      (s.results source)) := by
  obtain ⟨results, hresults⟩ := exists_buildRows (Config.isReady_of_resolve hresolve)
    s.config.posColumn (s.rows source) s.first
  have hread : (s.initialised none).read now path (.ok bytes) =
      (.ok (), (s.initialised (some path)).accept source) := readSource_of_ok hdecode
  rw [Importer.run, Setup.initialise_of_ok hresolve]
  dsimp only
  rw [hread, Setup.results_eq hresults]
  show (buildRows s.providers s.config.posColumn (s.rows source) s.first >>= _) = _
  rw [hresults]
  rfl

/-- What a run on a file comes to. -/
theorem Setup.exists_run_file {s : Setup} {source : Source} {bytes : List UInt8}
    (hresolve : s.config.resolve s.reference = .ok s.providers)
    (hdecode : Source.decode s.codecs bytes s.encoding = .ok source) (now path : String) :
    ∃ i, s.importer.run now path (.ok bytes) = .ok (.ok (), i) ∧
      i.bundles = (s.results source).flatMap (fun r => r.bundles.getD []) ∧
      i.stats = (Stats.ofLines (s.config.readLines s.keep source)).addRows (s.results source) :=
  ⟨_, s.run_eq_finish hresolve hdecode now path, List.nil_append _, rfl⟩

/-! ## A small run -/

/-- The slots of a verb. -/
def sampleSlots : List Slot :=
  [⟨1, "infinitive", 0⟩, ⟨2, "infinitive_divided", 0⟩, ⟨3, "present_3sg", 0⟩,
    ⟨4, "preterite_3sg", 0⟩, ⟨5, "participle", 0⟩]

/-- A language and a part of speech. -/
def sampleReference : ReferenceConfig := ⟨[⟨1, "nds", ""⟩], [⟨1, "x", sampleSlots⟩]⟩

/-- Encodings that read ASCII as it is, one of which is looked up. -/
def sampleCodecs : Codecs where
  forLabel? label := if label = "us-ascii".toList then some Text.readUtf8 else none
  iso8859x15 := Text.readUtf8
  windows1252 := Text.readUtf8
  detect _ := "ascii"

/-- A language with one creator. -/
def Setup.sample (grammar : Grammar) : Setup where
  config :=
    { separator := '\t', columnCount := 2, minColumnCount := 0, skipLines := ∅, posColumn := 0
      reference := sampleReference, providers := [⟨"nds", 7, ∅, ∅, [⟨"x", grammar, 1, none⟩]⟩] }
  reference := Reference.ofConfig sampleReference
  codecs := sampleCodecs
  encoding := none
  keep := fun _ => true
  first := -1

/-- Three rows, the second of which fails when it has drawn an id. -/
def sampleSource : Source := ⟨"x\ta~b\nx\tc~\nx\td", "utf-8"⟩

theorem exists_run_sample : ∃ i, Run (.sample .misc) [sampleSource] i ∧ i.state = .done :=
  Setup.exists_run _ _ (Text.writeUtf8 sampleSource.content.toList) rfl (by decide)

end Importer

end Wordbook
