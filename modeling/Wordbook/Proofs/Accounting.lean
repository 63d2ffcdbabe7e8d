import Wordbook.Proofs.Lifecycle
import Wordbook.Report

/-!
# The counts of a run

Every line of a source is counted once, and every row that is accepted is made
or has failed. Each rejected line and each row that has failed has one error,
and no line has two.

* `RowBuild.Labelled`: what is said of a row is said in the name of a provider, and
  of a column that it reads;
* `Diagnostics.Account`, `Importer.Account`: the counts that agree;
* `Importer.Run.accounted`: they agree on every run.
-/

namespace Wordbook

section

variable {α β : Type} {f : α → List β} {as : List α}

/-- If nothing makes two elements, those of different keys are all different. -/
theorem pairwise_ne_flatMap {κ : Type} (key : α → κ) (keyOf : β → κ)
    (has : as.Pairwise (key · ≠ key ·)) (hf : ∀ a ∈ as, ∀ b ∈ f a, keyOf b = key a)
    (hone : ∀ a ∈ as, (f a).length ≤ 1) : (as.flatMap f).Pairwise (keyOf · ≠ keyOf ·) := by
  rw [List.pairwise_flatMap]
  constructor
  · intro a ha
    rcases hfa : f a with _ | ⟨b, _ | ⟨c, rest⟩⟩
    · exact .nil
    · exact List.pairwise_singleton ..
    · have := hone a ha
      rw [hfa] at this
      exact absurd this (by simp)
  · refine has.imp_of_mem fun ha hb hne c hc d hd => ?_
    rwa [hf _ ha c hc, hf _ hb d hd]

theorem countP_cons_toNat (p : α → Bool) (a : α) (as : List α) :
    (a :: as).countP p = as.countP p + (p a).toNat := by
  rw [List.countP_cons]
  cases p a <;> rfl

theorem countP_flatMap_of_forall {p : β → Bool} {q : α → Bool}
    (h : ∀ a ∈ as, (f a).countP p = if q a then 1 else 0) :
    (as.flatMap f).countP p = as.countP q := by
  induction as with
  | nil => rfl
  | cons a as ih =>
    obtain ⟨ha, has⟩ := List.forall_mem_cons.1 h
    rw [List.flatMap_cons, List.countP_append, List.countP_cons, ih has, ha, Nat.add_comm]

end

/-- No provider is taken for the reader of lines. -/
theorem Provider.label_ne_context (p : Provider) (tag : String) :
    p.label tag ≠ LineOutcome.context := by
  intro h
  have hslash : '/' ∈ (p.label tag).toList := by simp [label, toString]
  rw [h] at hslash
  exact absurd hslash (by decide)

namespace RowBuild

variable {α : Type} {P Q : String → Nat → Prop}

/-- All that is said in the making of something is said under a label and of a column with `P`. -/
def Labelled (P : String → Nat → Prop) (c : RowBuild α) : Prop :=
  ∀ ledger result after, c ledger = .ok (result, after) →
    (∃ ds, after.diagnostics = ledger.diagnostics ++ ds ∧
      ∀ d ∈ ds, ∃ column ∈ d.column, P d.context column) ∧
    ∀ failure, result = .error failure → P failure.context failure.column

theorem Labelled.imp {c : RowBuild α} (h : c.Labelled P)
    (hPQ : ∀ context column, P context column → Q context column) : c.Labelled Q := by
  intro ledger result after hrun
  obtain ⟨⟨ds, hds, hP⟩, hfailure⟩ := h ledger result after hrun
  refine ⟨⟨ds, hds, fun d hd => ?_⟩, fun failure hf => hPQ _ _ (hfailure failure hf)⟩
  obtain ⟨column, hcolumn, hlabel⟩ := hP d hd
  exact ⟨column, hcolumn, hPQ _ _ hlabel⟩

theorem Labelled.append {c d : RowBuild (List α)} (hc : c.Labelled P) (hd : d.Labelled P) :
    Labelled P (do return (← c) ++ (← d)) := by
  intro ledger result after hrun
  rw [append_apply] at hrun
  rcases hfirst : c ledger with fault | ⟨failure | as, between⟩
  · rw [hfirst] at hrun
    nomatch hrun
  · rw [hfirst] at hrun
    obtain ⟨rfl, rfl⟩ := Prod.mk.inj (Except.ok.inj hrun)
    exact hc _ _ _ hfirst
  · rw [hfirst] at hrun
    obtain ⟨⟨second, after⟩, hsecond, heq⟩ := map_eq_ok_iff.1 hrun
    obtain ⟨rfl, rfl⟩ := Prod.mk.inj heq
    obtain ⟨⟨ds, hds, hP⟩, -⟩ := hc _ _ _ hfirst
    obtain ⟨⟨es, hes, hQ⟩, hfailure⟩ := hd _ _ _ hsecond
    refine ⟨⟨ds ++ es, by rw [hes, hds, List.append_assoc],
      List.forall_mem_append.2 ⟨hP, hQ⟩⟩, fun failure hf => ?_⟩
    cases second with
    | ok bs => nomatch hf
    | error e => exact hfailure failure hf

end RowBuild

namespace Provider

variable {p : Provider} {bound : BoundCreator} {tag : String} {row : Row}

/-- What a provider says of a row, and of which of its columns. -/
def Labels (p : Provider) (tag context : String) (column : Nat) : Prop :=
  context = p.label tag ∧ ∃ bound ∈ p.creators, column ∈ bound.columns

theorem labelled_lexemes (h : bound.creator.isInitialised) (hbound : bound ∈ p.creators) :
    (p.lexemes bound tag row).Labelled (p.Labels tag) := by
  obtain ⟨⟨messages, drawn, outcome⟩, -, hcreate⟩ := Creator.createLexemes_sketches h row
  intro ledger result after hrun
  constructor
  · refine ⟨messages.map fun message => ⟨.warning, message, p.label tag, row.line,
      some bound.creator.column⟩, ?_, List.forall_mem_map.2 fun _ _ =>
        ⟨_, rfl, rfl, bound, hbound, List.mem_cons_self⟩⟩
    rw [lexemes_apply (hcreate _ _ row rfl), Sketch.run] at hrun
    cases outcome <;> exact (congrArg (·.2.diagnostics) (Except.ok.inj hrun)).symm
  · rintro failure rfl
    cases lexemes_eq_error_iff.1 hrun with
    | creation => exact ⟨rfl, bound, hbound, List.mem_cons_self⟩
    | dialects _ _ hcolumn =>
      exact ⟨rfl, bound, hbound, List.mem_cons_of_mem _ (Option.mem_toList.2 hcolumn)⟩

theorem labelled_bundles (hp : p.IsReady) (tag : String) (row : Row) :
    (p.bundles tag row).Labelled (p.Labels tag) := by
  intro ledger result after hrun
  cases hbound : p.creator? tag with
  | none =>
    rw [bundles_apply_none hbound] at hrun
    obtain ⟨rfl, rfl⟩ := Prod.mk.inj (Except.ok.inj hrun)
    exact ⟨⟨[], (List.append_nil _).symm, nofun⟩, nofun⟩
  | some bound =>
    rw [bundles_apply_some hbound] at hrun
    obtain ⟨⟨made, after⟩, hmade, heq⟩ := map_eq_ok_iff.1 hrun
    obtain ⟨rfl, rfl⟩ := Prod.mk.inj heq
    obtain ⟨hds, hfailure⟩ := labelled_lexemes (creator?_isInitialised hp hbound)
      (List.mem_of_find?_eq_some hbound) _ _ _ hmade
    refine ⟨hds, fun failure hf => ?_⟩
    cases made with
    | ok lexemes => nomatch hf
    | error e => exact hfailure failure (congrArg Except.error (Except.error.inj hf))

end Provider

theorem labelled_rowBundles {ps : List Provider} (hps : ∀ p ∈ ps, p.IsReady) (tag : String)
    (row : Row) :
    (rowBundles ps tag row).Labelled fun context column =>
      ∃ p ∈ ps, p.Labels tag context column := by
  induction ps with
  | nil =>
    intro ledger result after hrun
    obtain ⟨rfl, rfl⟩ := Prod.mk.inj (Except.ok.inj hrun)
    exact ⟨⟨[], (List.append_nil _).symm, nofun⟩, nofun⟩
  | cons p ps ih =>
    obtain ⟨hp, hps⟩ := List.forall_mem_cons.1 hps
    rw [rowBundles_cons]
    refine .append ((Provider.labelled_bundles hp tag row).imp ?_) ((ih hps).imp ?_)
    · intro context column hlabel
      exact ⟨p, List.mem_cons_self, hlabel⟩
    · rintro context column ⟨q, hq, hlabel⟩
      exact ⟨q, List.mem_cons_of_mem _ hq, hlabel⟩

section

variable {ps : List Provider} {posColumn : Nat} {row : Row} {first : Int64} {r : RowResult}

theorem buildRow_cases (h : buildRow ps posColumn row first = .ok r) :
    (∃ bundles after, rowBundles ps (row.cell posColumn) row ⟨⟨first, 0⟩, []⟩ =
        .ok (.ok bundles, after) ∧ r = ⟨after.ids, after.diagnostics, some bundles⟩) ∨
    ∃ failure after, rowBundles ps (row.cell posColumn) row ⟨⟨first, 0⟩, []⟩ =
        .ok (.error failure, after) ∧
      r = ⟨after.ids, after.diagnostics ++ [failure.diagnostic row.line], none⟩ := by
  unfold buildRow at h
  rcases hrun : rowBundles ps (row.cell posColumn) row ⟨⟨first, 0⟩, []⟩ with
    fault | ⟨failure | bundles, after⟩
  · rw [hrun] at h
    nomatch h
  · rw [hrun] at h
    exact .inr ⟨failure, after, rfl, (Except.ok.inj h).symm⟩
  · rw [hrun] at h
    exact .inl ⟨bundles, after, rfl, (Except.ok.inj h).symm⟩

theorem labels_of_buildRow (hps : ∀ p ∈ ps, p.IsReady)
    (h : buildRow ps posColumn row first = .ok r) :
    ∀ d ∈ r.diagnostics, ∃ column ∈ d.column, ∃ p ∈ ps,
      p.Labels (row.cell posColumn) d.context column := by
  rcases buildRow_cases h with ⟨bundles, after, hrun, rfl⟩ | ⟨failure, after, hrun, rfl⟩
  · obtain ⟨⟨ds, hds, hlabels⟩, -⟩ := labelled_rowBundles hps _ row _ _ _ hrun
    rw [hds]
    exact hlabels
  · obtain ⟨⟨ds, hds, hlabels⟩, hfailure⟩ := labelled_rowBundles hps _ row _ _ _ hrun
    rw [hds]
    exact List.forall_mem_append.2
      ⟨hlabels, List.forall_mem_singleton.2 ⟨_, rfl, hfailure failure rfl⟩⟩

/-- A row that fails has one error, and no other row has any. -/
theorem errors_of_buildRow (hps : ∀ p ∈ ps, p.IsReady)
    (h : buildRow ps posColumn row first = .ok r) :
    r.diagnostics.countP (·.severity == .error) = if r.bundles.isNone then 1 else 0 := by
  rcases buildRow_cases h with ⟨bundles, after, hrun, rfl⟩ | ⟨failure, after, hrun, rfl⟩
  · refine List.countP_eq_zero.2 fun d hd => ?_
    rw [severity_of_rowBundles hps hrun d hd]
    nofun
  · rw [List.countP_append, List.countP_eq_zero.2 fun d hd => ?_]
    · rfl
    · rw [severity_of_rowBundles hps hrun d hd]
      nofun

end

/-! ## The lines of a source -/

namespace LineOutcome

theorem isSome_row? (o : LineOutcome) : o.row?.isSome = o.isAccepted := by cases o <;> rfl

theorem isSome_diagnostic? (o : LineOutcome) : o.diagnostic?.isSome = o.isRejected := by
  cases o <;> rfl

theorem of_diagnostic? {o : LineOutcome} {d : Diagnostic} (h : o.diagnostic? = some d) :
    d.severity = .error ∧ d.context = context := by
  cases o with
  | rejected => exact Option.some.inj h ▸ ⟨rfl, rfl⟩
  | skipped | blank | filtered | accepted => nomatch h

/-- A line is skipped, blank or read. -/
theorem kinds (o : LineOutcome) :
    o.isSkipped.toNat + o.isBlank.toNat + o.isRead.toNat = 1 := by cases o <;> rfl

/-- A line that is read is accepted, rejected or filtered. -/
theorem kinds_of_isRead (o : LineOutcome) :
    o.isRead.toNat = o.isAccepted.toNat + o.isRejected.toNat + o.isFiltered.toNat := by
  cases o <;> rfl

end LineOutcome

namespace Stats

theorem length_eq_ofLines (os : List LineOutcome) :
    (ofLines os).skippedLines + (ofLines os).blankLines + (ofLines os).linesRead = os.length := by
  simp only [ofLines]
  induction os with
  | nil => rfl
  | cons o os ih =>
    have := o.kinds
    simp only [countP_cons_toNat, List.length_cons]
    omega

theorem linesRead_ofLines (os : List LineOutcome) : (ofLines os).linesRead =
    (ofLines os).rowsAccepted + (ofLines os).rowsRejected + (ofLines os).rowsFiltered := by
  simp only [ofLines]
  induction os with
  | nil => rfl
  | cons o os ih =>
    have := o.kinds_of_isRead
    simp only [countP_cons_toNat]
    omega

end Stats

/-! ## The counts of diagnostics -/

/-- The errors of a run with some rejected lines and some rows that have failed. -/
structure Diagnostics.Account (ds : Diagnostics) (rejected failed : Nat) : Prop where
  reader : ds.entries.countP (fun d =>
    d.severity == .error && d.context == LineOutcome.context) = rejected
  rows : ds.entries.countP (fun d =>
    d.severity == .error && d.context != LineOutcome.context) = failed
  errors : (ds.entries.filter (·.severity == .error)).Pairwise (·.line ≠ ·.line)
  /-- What the lines come to is told before what the rows come to, and both in their order. -/
  blocks : ∃ lines rows, ds.entries = lines ++ rows ∧
    (∀ d ∈ lines, d.context = LineOutcome.context) ∧
    (∀ d ∈ rows, d.context ≠ LineOutcome.context) ∧
    lines.Pairwise (·.line ≤ ·.line) ∧ rows.Pairwise (·.line ≤ ·.line)

namespace Diagnostics

theorem Account.empty : Account ∅ 0 0 :=
  ⟨rfl, rfl, .nil, [], [], rfl, nofun, nofun, .nil, .nil⟩

theorem Account.count_eq {ds : Diagnostics} {rejected failed : Nat}
    (h : ds.Account rejected failed) : ds.count .error = rejected + failed := by
  rw [← h.reader, ← h.rows, count]
  generalize ds.entries = entries
  induction entries with
  | nil => rfl
  | cons d entries ih =>
    rw [countP_cons_toNat, countP_cons_toNat, countP_cons_toNat, ih]
    cases d.severity == .error <;> cases h : d.context == LineOutcome.context <;>
      simp [bne, h] <;> omega

/-- Errors of lines, followed by diagnostics of rows on other lines. -/
theorem Account.append {lines rows : List Diagnostic}
    (hlines : ∀ d ∈ lines, d.severity = .error ∧ d.context = LineOutcome.context)
    (hrows : ∀ d ∈ rows, d.context ≠ LineOutcome.context)
    (hlinesOrder : lines.Pairwise (·.line < ·.line)) (hrowsOrder : rows.Pairwise (·.line ≤ ·.line))
    (herrors : (rows.filter (·.severity == .error)).Pairwise (·.line ≠ ·.line))
    (hne : ∀ d ∈ lines, ∀ e ∈ rows, d.line ≠ e.line) :
    Account ⟨lines ++ rows⟩ lines.length (rows.countP (·.severity == .error)) where
  reader := by
    rw [List.countP_append, List.countP_eq_length.2, List.countP_eq_zero.2, Nat.add_zero]
    · intro d hd
      simp [hrows d hd]
    · intro d hd
      simp [hlines d hd]
  rows := by
    rw [List.countP_append, List.countP_eq_zero.2, Nat.zero_add]
    · refine List.countP_congr fun d hd => ?_
      simp [hrows d hd]
    · intro d hd
      simp [hlines d hd]
  errors := by
    rw [List.filter_append, List.pairwise_append]
    refine ⟨(hlinesOrder.imp Nat.ne_of_lt).filter _, herrors, fun d hd e he => ?_⟩
    exact hne d (List.mem_filter.1 hd).1 e (List.mem_filter.1 he).1
  blocks := ⟨lines, rows, rfl, fun d hd => (hlines d hd).2, hrows,
    hlinesOrder.imp Nat.le_of_lt, hrowsOrder⟩

end Diagnostics

namespace Importer

namespace Setup

variable (s : Setup) (source : Source)

/-- The counts when a source has been read. -/
def stats : Stats := .ofLines (s.config.readLines s.keep source)

theorem lines_eq_stats : (s.stats source).skippedLines + (s.stats source).blankLines +
    (s.stats source).linesRead = (Text.lines source.content.toList).length := by
  rw [stats, Stats.length_eq_ofLines, Config.readLines, List.length_map, Source.numberedLines,
    List.length_map, List.length_zipIdx]

theorem length_rows : (s.rows source).length = (s.stats source).rowsAccepted := by
  simp only [rows, stats, Stats.ofLines, List.length_filterMap_eq_countP,
    LineOutcome.isSome_row?]

theorem length_rejections : (s.rejections source).length = (s.stats source).rowsRejected := by
  simp only [rejections, stats, Stats.ofLines, List.length_filterMap_eq_countP,
    LineOutcome.isSome_diagnostic?]

theorem pairwise_rejections : (s.rejections source).Pairwise (·.line < ·.line) := by
  rw [rejections, Config.readLines, List.filterMap_map]
  refine source.pairwise_numberedLines.filterMap _ fun a b hab d hd e he => ?_
  rw [(Config.of_diagnostic? hd).1, (Config.of_diagnostic? he).1]
  exact hab

variable {s source}

theorem of_mem_rejections {d : Diagnostic} (h : d ∈ s.rejections source) :
    d.severity = .error ∧ d.context = LineOutcome.context ∧
      ∀ row ∈ s.rows source, d.line ≠ row.line := by
  obtain ⟨o, ho, hd⟩ := List.mem_filterMap.1 h
  obtain ⟨⟨number, text⟩, hline, rfl⟩ := List.mem_map.1 ho
  obtain ⟨rfl, hnone⟩ := Config.of_diagnostic? hd
  obtain ⟨hseverity, hcontext⟩ := LineOutcome.of_diagnostic? hd
  refine ⟨hseverity, hcontext, fun row hrow hsame => ?_⟩
  obtain ⟨text', hline', haccepted⟩ := exists_line hrow
  rw [hsame] at hline hnone
  rw [Source.text_unique hline hline', haccepted] at hnone
  nomatch hnone

end Setup

/-! ## Runs -/

/-- The counts of a run agree with one another and with all that has been made. -/
structure Account (sources : List Source) (i : Importer) : Prop where
  one_source : sources.length ≤ 1
  unread : sources = [] →
    i.stats.skippedLines = 0 ∧ i.stats.blankLines = 0 ∧ i.stats.linesRead = 0
  lines : ∀ source ∈ sources, i.stats.skippedLines + i.stats.blankLines + i.stats.linesRead =
    (Text.lines source.content.toList).length
  read : i.stats.linesRead = i.stats.rowsAccepted + i.stats.rowsRejected + i.stats.rowsFiltered
  pending : i.state = .reading →
    i.rows.length = i.stats.rowsAccepted ∧ i.rows.Pairwise (·.line < ·.line)
  bundles : i.stats.bundles = i.bundles.length
  variants : i.stats.variants = (i.bundles.map (·.variants.length)).sum
  failed_le : i.stats.rowsFailed ≤ i.stats.rowsAccepted
  diagnostics : i.diagnostics.Account i.stats.rowsRejected i.stats.rowsFailed
  errorCount (runId startedAt : String) :
    (i.report runId startedAt).errorCount = i.stats.rowsRejected + i.stats.rowsFailed

variable {s : Setup} {sources : List Source} {source : Source} {i : Importer}

theorem Account.of_zero (hstate : i.state ≠ .reading) (hbundles : i.bundles = [])
    (hdiagnostics : i.diagnostics = ∅) (hstats : i.stats = .zero) : Account [] i where
  one_source := Nat.zero_le _
  unread _ := by simp [hstats, Stats.zero]
  lines := nofun
  read := by rw [hstats]; rfl
  pending h := absurd h hstate
  bundles := by rw [hstats, hbundles]; rfl
  variants := by rw [hstats, hbundles]; rfl
  failed_le := by rw [hstats]; exact Nat.le_refl _
  diagnostics := by rw [hstats, hdiagnostics]; exact .empty
  errorCount _ _ := by
    rw [Report.errorCount, report, hdiagnostics, hstats]
    rfl

/-- The counts when no row has been built. -/
theorem Setup.account_rejections (s : Setup) (source : Source) :
    Diagnostics.Account ⟨s.rejections source⟩ (s.stats source).rowsRejected 0 := by
  have hlines (d) (hd : d ∈ s.rejections source) :
      d.severity = .error ∧ d.context = LineOutcome.context :=
    ⟨(of_mem_rejections hd).1, (of_mem_rejections hd).2.1⟩
  have : Diagnostics.Account ⟨s.rejections source ++ []⟩ (s.rejections source).length 0 :=
    .append hlines nofun (s.pairwise_rejections source) .nil .nil nofun
  rwa [List.append_nil, s.length_rejections] at this

namespace Done

theorem pairwise_diagnostics (h : Done s source i) :
    ((s.trace source).flatMap (·.2.diagnostics)).Pairwise (·.line ≤ ·.line) :=
  pairwise_le_flatMap (·.1.line) Diagnostic.line h.pairwise_trace fun _ ht =>
    (line_of_buildRow h.isReady (h.buildRow_eq ht)).1

theorem pairwise_errors (h : Done s source i) :
    (((s.trace source).flatMap (·.2.diagnostics)).filter (·.severity == .error)).Pairwise
      (·.line ≠ ·.line) := by
  rw [List.filter_flatMap]
  refine pairwise_ne_flatMap (·.1.line) Diagnostic.line (h.pairwise_trace.imp Nat.ne_of_lt)
    (fun t ht d hd => ?_) fun t ht => ?_
  · exact (line_of_buildRow h.isReady (h.buildRow_eq ht)).1 d (List.mem_filter.1 hd).1
  · rw [← List.countP_eq_length_filter, errors_of_buildRow h.isReady (h.buildRow_eq ht)]
    split <;> decide

theorem countP_errors (h : Done s source i) :
    ((s.trace source).flatMap (·.2.diagnostics)).countP (·.severity == .error) =
      (s.results source).countP (·.bundles.isNone) := by
  rw [← h.map_snd_trace, List.countP_map]
  exact countP_flatMap_of_forall fun t ht => errors_of_buildRow h.isReady (h.buildRow_eq ht)

theorem failed_le (h : Done s source i) :
    (s.results source).countP (·.bundles.isNone) ≤ (s.stats source).rowsAccepted := by
  rw [← s.length_rows, (buildRows_spec h.isReady h.buildRows_eq).1.length_eq]
  exact List.countP_le_length

theorem account_diagnostics (h : Done s source i) :
    i.diagnostics.Account (s.stats source).rowsRejected
      ((s.results source).countP (·.bundles.isNone)) := by
  have hdiagnostics : i.diagnostics =
      ⟨s.rejections source ++ (s.trace source).flatMap (·.2.diagnostics)⟩ :=
    congrArg Diagnostics.mk h.diagnostics_eq_trace
  rw [hdiagnostics, ← s.length_rejections, ← h.countP_errors]
  refine .append (fun d hd => ⟨(Setup.of_mem_rejections hd).1, (Setup.of_mem_rejections hd).2.1⟩)
    (fun d hd => ?_) (s.pairwise_rejections source) h.pairwise_diagnostics h.pairwise_errors
    fun d hd e he => ?_
  · obtain ⟨t, ht, hd⟩ := List.mem_flatMap.1 hd
    obtain ⟨_, -, p, -, hlabel, -⟩ := labels_of_buildRow h.isReady (h.buildRow_eq ht) d hd
    rw [hlabel]
    exact p.label_ne_context _
  · obtain ⟨t, ht, he⟩ := List.mem_flatMap.1 he
    rw [(line_of_buildRow h.isReady (h.buildRow_eq ht)).1 e he]
    exact (Setup.of_mem_rejections hd).2.2 _ (List.of_mem_zip ht).1

theorem account (h : Done s source i) (hstate : i.state = .done)
    (hstats : i.stats = (s.stats source).addRows (s.results source)) : i.Account [source] := by
  -- No row has failed before the rows are built, so all counts of rows start at zero.
  have hfailed : i.stats.rowsFailed = (s.results source).countP (·.bundles.isNone) := by
    rw [hstats]
    exact Nat.zero_add _
  have haccepted : i.stats.rowsAccepted = (s.stats source).rowsAccepted := by
    rw [hstats]
    rfl
  have hdiagnostics : i.diagnostics.Account i.stats.rowsRejected i.stats.rowsFailed := by
    rw [hfailed, hstats]
    exact h.account_diagnostics
  refine ⟨Nat.le_refl _, nofun, ?_, ?_, fun hreading => ?_, ?_, ?_, ?_, hdiagnostics,
    fun _ _ => hdiagnostics.count_eq⟩
  · rw [hstats]
    exact List.forall_mem_singleton.2 (s.lines_eq_stats source)
  · rw [hstats]
    exact Stats.linesRead_ofLines _
  · rw [hstate] at hreading
    nomatch hreading
  · rw [hstats, h.bundles_eq]
    exact Nat.zero_add _
  · rw [hstats, h.bundles_eq]
    exact (Nat.zero_add _).trans List.length_flatMap
  · rw [hfailed, haccepted]
    exact h.failed_le

end Done

theorem Stage.account (h : Stage s sources i) : i.Account sources := by
  have hstage := h
  cases h with
  | uninitialised | initialised | aborted => exact .of_zero nofun rfl rfl rfl
  | @reading source =>
    have hdiagnostics := s.account_rejections source
    exact {
      one_source := Nat.le_refl _
      unread := nofun
      lines := List.forall_mem_singleton.2 (s.lines_eq_stats source)
      read := Stats.linesRead_ofLines _
      pending := fun _ => ⟨s.length_rows source, s.pairwise_rows source⟩
      bundles := rfl
      variants := rfl
      failed_le := Nat.zero_le _
      diagnostics := hdiagnostics
      errorCount := fun _ _ => hdiagnostics.count_eq }
  | done => exact (hstage.toDone rfl).account rfl rfl

/-- After any steps the counts agree, and no step leaves a run without them. -/
theorem Run.accounted (h : Run s sources i) :
    i.Account sources ∧ ∀ now step, ∃ result j, i.step now step = .ok (result, j) ∧
      j.Account (sources ++ step.sources s result) := by
  refine ⟨h.stage.account, fun now step => ?_⟩
  obtain ⟨result, j, hstep⟩ := h.exists_step now step
  exact ⟨result, j, hstep, (h.step hstep).stage.account⟩

theorem Run.accounted_sample : ∃ i, Run (.sample .misc) [sampleSource] i ∧ i.state = .done ∧
    i.Account [sampleSource] ∧
    i.stats.skippedLines + i.stats.blankLines + i.stats.linesRead = 3 := by
  obtain ⟨i, hrun, hdone⟩ := exists_run_sample
  have haccount := (Run.accounted hrun).1
  exact ⟨i, hrun, hdone, haccount, (haccount.lines _ List.mem_cons_self).trans (by decide)⟩

end Importer

end Wordbook
