import Mathlib.Algebra.BigOperators.Group.List.Basic
import Wordbook.Command.Actions
import Wordbook.Proofs.Accounting
import Wordbook.Proofs.AllOrNothing
import Wordbook.Proofs.Check
import Wordbook.Proofs.JsonText
import Wordbook.Proofs.Schema

/-!
# Reports that are read back

The report of a run that is done is written without loss, if its counts stay
within 64 bits: every line is one of the source and every column is inside the
row. What is wrong with its bundles is wrong with the values that they are read
as.

* `Json.Plain`, of bundles, diagnostics and reports (`Importer.Done.plain_report`);
* `Importer.Done.of_mem_diagnostics`: lines and columns of diagnostics;
* `Bundle.invalidValues_map_normal`: bundles and the values that are read.
-/

namespace Wordbook

open Json Reader

namespace Json

variable {α : Type} {n : Nat}

theorem isWord_toInt (k : Int64) : IsWord k.toInt := by
  have hlow := k.le_toInt
  have hhigh := k.toInt_lt
  have hword : maxWord = 2 ^ 64 - 1 := rfl
  refine ⟨hlow, ?_⟩
  omega

theorem plain_ofInt64 (k : Int64) : Plain n (ofInt64 k) := .whole (isWord_toInt k)

theorem plain_ofCount {k : Nat} (hk : k ≤ maxWord) : Plain n (ofCount k) := by
  refine .whole ⟨?_, Int.ofNat_le.2 hk⟩
  omega

theorem plain_ofList {write : α → Json} {l : List α} (h : ∀ a ∈ l, Plain n (write a)) :
    Plain (n + 1) (ofList write l) :=
  .array (List.forall_mem_map.2 h)

theorem plain_ofOption {write : α → Json} {o : Option α} (h : ∀ a ∈ o, Plain n (write a)) :
    Plain n (ofOption write o) := by
  cases o with
  | none => exact .null
  | some a => exact h a rfl

theorem plain_ofMap {write : α → Json} {m : SortedMap String α}
    (h : ∀ e ∈ m.entries, Plain n (write e.2)) : Plain (n + 1) (ofMap write m) :=
  .object (List.forall_mem_map.2 h)

end Json

theorem Form.plain (f : Form) {n : Nat} : Plain (n + 1) f.toJson := by
  refine .object ?_
  simp only [List.forall_mem_cons]
  refine ⟨plain_ofOption fun id _ => plain_ofInt64 id, plain_ofInt64 _, .string _, .string _, nofun⟩

theorem Properties.plain (p : Properties) {n : Nat} : Plain (n + 2) p.toJson :=
  plain_ofMap fun _ _ => plain_ofList fun tag _ => .string tag

theorem Variant.plain (v : Variant) {n : Nat} : Plain (n + 3) v.toJson := by
  refine .object ?_
  simp only [List.forall_mem_cons]
  exact ⟨plain_ofInt64 _, plain_ofInt64 _, .bool _,
    plain_ofOption fun ids _ => plain_ofList fun id _ => plain_ofInt64 id,
    plain_ofList fun f _ => f.plain, v.properties.plain, .bool _, .string _, nofun⟩

theorem Bundle.plain {b : Bundle} (h : b.line ≤ maxWord) {n : Nat} : Plain (n + 5) b.toJson := by
  refine .object ?_
  simp only [List.forall_mem_cons]
  exact ⟨plain_ofInt64 _, .string _, .string _, plain_ofCount h, .string _,
    plain_ofList fun v _ => v.plain, nofun⟩

theorem Diagnostic.plain {d : Diagnostic} (hline : d.line ≤ maxWord)
    (hcolumn : ∀ k ∈ d.column, k ≤ maxWord) {n : Nat} : Plain (n + 1) d.toJson := by
  refine .object ?_
  simp only [List.forall_mem_cons]
  exact ⟨.string _, .string _, .string _, plain_ofCount hline,
    plain_ofOption fun k hk => plain_ofCount (hcolumn k hk), nofun⟩

theorem Source.le_length_of_mem {source : Source} {k : Nat} {text : List Char}
    (h : (k, text) ∈ source.numberedLines) : k ≤ (Text.lines source.content.toList).length := by
  obtain ⟨hpos, hget⟩ := Source.mem_numberedLines_iff.1 h
  obtain ⟨hlt, -⟩ := List.getElem?_eq_some_iff.1 hget
  omega

theorem Config.column_of_diagnostic? {c : Config} {keep : Row → Bool} {number : Nat}
    {text : List Char} {d : Diagnostic} (h : (c.readLine keep number text).diagnostic? = some d) :
    ∀ k ∈ d.column, k = c.posColumn := by
  unfold readLine at h
  split at h
  · nomatch h
  · split at h
    · nomatch h
    · split at h
      · obtain rfl := Option.some.inj h
        nofun
      · unfold readRow at h
        dsimp only at h
        split at h
        · obtain rfl := Option.some.inj h
          rintro k ⟨⟩
          rfl
        · split at h <;> nomatch h

namespace Importer

variable {s : Setup} {source : Source} {i : Importer}

/-- A diagnostic is about a line of the source, or about a row that is one. -/
theorem Done.of_mem_diagnostics (h : Done s source i) (hc : s.config.IsSound) {d : Diagnostic}
    (hd : d ∈ i.diagnostics.entries) :
    (∃ text, (d.line, text) ∈ source.numberedLines) ∧
      ∀ k ∈ d.column, k < s.config.columnCount := by
  rw [h.diagnostics_eq_trace] at hd
  rcases List.mem_append.1 hd with hd | hd
  · obtain ⟨o, ho, hd⟩ := List.mem_filterMap.1 hd
    obtain ⟨⟨number, text⟩, hline, rfl⟩ := List.mem_map.1 ho
    obtain ⟨rfl, -⟩ := Config.of_diagnostic? hd
    refine ⟨⟨text, hline⟩, fun k hk => ?_⟩
    rw [Config.column_of_diagnostic? hd k hk]
    exact hc.posColumn_lt
  · obtain ⟨⟨row, r⟩, hr, hd⟩ := List.mem_flatMap.1 hd
    have hbuild := h.buildRow_eq hr
    obtain ⟨text, hline, -⟩ := Setup.exists_line (List.of_mem_zip hr).1
    refine ⟨⟨text, (line_of_buildRow h.isReady hbuild).1 d hd ▸ hline⟩, fun k hk => ?_⟩
    obtain ⟨column, hcolumn, p, hp, -, bound, hbound, hmem⟩ :=
      labels_of_buildRow h.isReady hbuild d hd
    obtain rfl := Option.mem_unique hk hcolumn
    obtain ⟨pc, hpc, -, hcreators⟩ := Config.exists_of_mem_resolve h.resolve_eq hp
    obtain ⟨cc, hcc, -, -, hcolumns⟩ := hcreators bound hbound
    exact (hc.providers pc hpc).columns cc hcc k (hcolumns ▸ hmem)

theorem Done.line_of_mem_bundles (h : Done s source i) {b : Bundle} (hb : b ∈ i.bundles) :
    ∃ text, (b.line, text) ∈ source.numberedLines := by
  obtain ⟨row, r, bundles, hr, hbundles, hmem⟩ := h.mem_bundles_iff.1 hb
  obtain ⟨text, hline, -⟩ := Setup.exists_line (List.of_mem_zip hr).1
  refine ⟨text, ?_⟩
  rw [(line_of_buildRow h.isReady (h.buildRow_eq hr)).2 b]
  · exact hline
  · exact RowResult.mem_getD_bundles_iff.2 ⟨bundles, hbundles, hmem⟩

end Importer

/-! ## Reports -/

/-- The counts of a run stay within 64 bits. -/
structure Stats.Fits (s : Stats) : Prop where
  lines : s.skippedLines + s.blankLines + s.linesRead ≤ maxWord
  variants : s.variants ≤ maxWord

namespace Importer

variable {s : Setup} {source : Source} {i : Importer}

theorem Done.bundles_le_variants (h : Done s source i) (haccount : i.Account [source]) :
    i.stats.bundles ≤ i.stats.variants := by
  have hpos : ∀ n ∈ i.bundles.map (·.variants.length), 1 ≤ n := by
    refine List.forall_mem_map.2 fun b hb => ?_
    obtain ⟨row, r, bundles, hr, hbundles, hmem⟩ := h.mem_bundles_iff.1 hb
    exact List.length_pos_iff.2
      ((buildRow_linked h.isReady (h.buildRow_eq hr) hbundles).2 b hmem).variants_ne_nil
  have hle := List.length_le_sum_of_one_le _ hpos
  rwa [List.length_map, ← haccount.bundles, ← haccount.variants] at hle

theorem Done.plain_stats (h : Done s source i) (haccount : i.Account [source])
    (hfits : i.stats.Fits) {n : Nat} : Plain (n + 1) i.stats.toJson := by
  have hlines := hfits.lines
  have hvariants := hfits.variants
  have hread := haccount.read
  have hfailed := haccount.failed_le
  have hbundles := h.bundles_le_variants haccount
  refine .object ?_
  simp only [List.forall_mem_cons]
  refine ⟨plain_ofCount ?_, plain_ofCount ?_, plain_ofCount ?_, plain_ofCount ?_, plain_ofCount ?_,
    plain_ofCount ?_, plain_ofCount ?_, plain_ofCount ?_, plain_ofCount ?_, nofun⟩ <;> omega

/-- The bundles of a run are written without loss. -/
theorem Done.plain_bundles (h : Done s source i) (haccount : i.Account [source])
    (hfits : i.stats.Fits) {n : Nat} : Plain (n + 6) (ofList Bundle.toJson i.bundles) := by
  refine plain_ofList fun b hb => Bundle.plain ?_
  obtain ⟨text, hline⟩ := h.line_of_mem_bundles hb
  have hle := Source.le_length_of_mem hline
  rw [← haccount.lines source List.mem_cons_self] at hle
  exact hle.trans hfits.lines

/-- So are its diagnostics, -/
theorem Done.plain_diagnostics (h : Done s source i) (haccount : i.Account [source])
    (hc : s.config.IsSound) (hcolumns : s.config.columnCount ≤ maxWord) (hfits : i.stats.Fits)
    {n : Nat} : Plain (n + 2) (ofList Diagnostic.toJson i.diagnostics.entries) := by
  refine plain_ofList fun d hd => ?_
  obtain ⟨⟨text, hline⟩, hcolumn⟩ := h.of_mem_diagnostics hc hd
  have hle := Source.le_length_of_mem hline
  rw [← haccount.lines source List.mem_cons_self] at hle
  exact Diagnostic.plain (hle.trans hfits.lines) fun k hk => (hcolumn k hk).le.trans hcolumns

/-- and its whole report. -/
theorem Done.plain_report (h : Done s source i) (haccount : i.Account [source])
    (hc : s.config.IsSound) (hcolumns : s.config.columnCount ≤ maxWord) (hfits : i.stats.Fits)
    (runId startedAt : String) : Plain 7 (i.report runId startedAt).toJson := by
  refine .object ?_
  simp only [List.forall_mem_cons]
  exact ⟨.string _, .string _, plain_ofOption fun t _ => .string t,
    plain_ofOption fun t _ => .string t, plain_ofOption fun t _ => .string t, .string _,
    h.plain_stats haccount hfits, h.plain_bundles haccount hfits,
    h.plain_diagnostics haccount hc hcolumns hfits, nofun⟩

end Importer

namespace Schema

/-- What is wrong with a value is wrong with its normal form. -/
theorem messages_normal (schema : Schema) (v : Json) :
    schema.messages v.normal = schema.messages v := by
  rw [messages, normal_normal, messages]

end Schema

theorem Bundle.invalidValues_map_normal (values : List Json) :
    invalidValues (values.map normal) = invalidValues values := by
  rw [invalidValues, invalidValues, List.zipIdx_map, List.map_map]
  refine congrArg _ (List.map_congr_left fun v _ => ?_)
  exact congrArg _ (schema.messages_normal _)

namespace Command

theorem bundleValues_ofList (bundles : List Bundle) :
    bundleValues (ofList Bundle.toJson bundles).normal =
      .ok (bundles.map fun b => b.toJson.normal) := by
  rw [normal_ofList]
  rfl

theorem bundleValues_of_member {v : Json} {vs : List Json}
    (h : v.member? "bundles" = some (array vs)) : bundleValues v = .ok vs := by
  cases v with
  | object ms =>
    change ms.lookup "bundles" = some (array vs) at h
    rw [bundleValues, h]
  | null | bool | number | string | array | unreadable => cases h

theorem bundleValues_report (r : Report) :
    bundleValues r.toJson.normal = .ok (r.bundles.map fun b => b.toJson.normal) := by
  refine bundleValues_of_member ?_
  rw [Report.toJson, member?_normal, ← normal_ofList]
  rfl

end Command

end Wordbook
