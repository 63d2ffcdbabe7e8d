import Wordbook.Lexeme.Record
import Wordbook.Proofs.JsonRecord
import Wordbook.Proofs.Report

/-!
# Bundles and diagnostics that are handed on

What is handed on for storing is a JSON value. Nothing of a bundle or of a
diagnostic is lost in it: it is read as the same one again, in whatever order
the members stand and in whatever lines it is written. So different ones are
never written as the same value.

* `Variant.readAs`, `Bundle.readAs`, `Diagnostic.readAs`: record by record;
* `handed_on`: bundles and diagnostics survive it.
-/

namespace Wordbook

open Json

theorem FormState.readAs (s : FormState) : (Json.string s.name).ReadAs FormState.ofJson? s := by
  cases s <;> exact readAs_choice rfl

theorem Action.readAs (a : Action) : (Json.string a.name).ReadAs Action.ofJson? a := by
  cases a
  exact readAs_choice rfl

theorem Form.keysOnce (f : Form) : f.toJson.KeysOnce := by
  simp [Form.toJson]

theorem Form.readAs (f : Form) : f.toJson.ReadAs Form.ofJson? f := by
  intro w hw
  obtain ⟨r, hr, h⟩ := hw.exists_record ["variantId", "formTypeId", "text", "state"]
  simp only [List.forall_mem_cons] at h
  obtain ⟨hvariantId, hslotId, htext, hstate, -⟩ := h
  have hoption := readAs_option rfl fun id (_ : id ∈ f.variantId) => readAs_int64 id
  simp only [ofJson?, hr, hvariantId.optional_eq hoption, hslotId.required_eq (readAs_int64 _),
    htext.required_eq (readAs_text _), hstate.required_eq f.state.readAs, Option.bind_eq_bind,
    Option.bind_some, Option.pure_def]

theorem Properties.keysOnce (p : Properties) : p.toJson.KeysOnce :=
  keysOnce_ofMap fun _ => keysOnce_ofSet keysOnce_string

theorem Properties.readAs (p : Properties) : p.toJson.ReadAs Properties.ofJson? p :=
  readAs_map fun _ _ => readAs_set fun tag _ => readAs_text tag

theorem Variant.keysOnce (v : Variant) : v.toJson.KeysOnce := by
  simp [Variant.toJson, Form.keysOnce, Properties.keysOnce]

theorem Variant.readAs (v : Variant) : v.toJson.ReadAs Variant.ofJson? v := by
  intro w hw
  obtain ⟨r, hr, h⟩ := hw.exists_record ["id", "orthographyId", "main", "dialectIds",
    "lexemeForms", "properties", "active", "action"]
  simp only [List.forall_mem_cons] at h
  obtain ⟨hid, horthography, hmain, hdialects, hforms, hproperties, hactive, haction, -⟩ := h
  have hoption := readAs_option rfl fun ids (_ : ids ∈ v.dialectIds) =>
    readAs_set fun id (_ : id ∈ ids.toList) => readAs_int64 id
  simp only [ofJson?, hr, hid.required_eq (readAs_int64 _),
    horthography.required_eq (readAs_int64 _), hmain.required_eq (readAs_bool _),
    hdialects.optional_eq hoption, hforms.required_eq (readAs_list fun f _ => f.readAs),
    hproperties.defaulted_eq v.properties.readAs, hactive.required_eq (readAs_bool _),
    haction.required_eq v.action.readAs, Option.bind_eq_bind, Option.bind_some, Option.pure_def]

theorem Bundle.keysOnce (b : Bundle) : b.toJson.KeysOnce := by
  simp [Bundle.toJson, Variant.keysOnce]

/-- The line of a bundle is a number of 64 bits. -/
def Bundle.Fits (b : Bundle) : Prop := b.line ≤ Reader.maxWord

theorem Bundle.readAs {b : Bundle} (hfits : b.Fits) : b.toJson.ReadAs Bundle.ofJson? b := by
  intro w hw
  obtain ⟨r, hr, h⟩ := hw.exists_record ["languageId", "language", "pos", "lineNumber", "action",
    "variants"]
  simp only [List.forall_mem_cons] at h
  obtain ⟨hid, hlanguage, hpos, hnumber, haction, hvariants, -⟩ := h
  simp only [ofJson?, hr, hid.required_eq (readAs_int64 _), hlanguage.required_eq (readAs_text _),
    hpos.required_eq (readAs_text _), hnumber.required_eq (readAs_count hfits),
    haction.required_eq b.action.readAs, hvariants.required_eq (readAs_list fun v _ => v.readAs),
    Option.bind_eq_bind, Option.bind_some, Option.pure_def]

theorem Severity.readAs (s : Severity) : (Json.string s.name).ReadAs Severity.ofJson? s := by
  cases s <;> exact readAs_choice rfl

theorem Diagnostic.keysOnce (d : Diagnostic) : d.toJson.KeysOnce := by
  simp [Diagnostic.toJson]

/-- The line and the column of a diagnostic are numbers of 64 bits. -/
structure Diagnostic.Fits (d : Diagnostic) : Prop where
  line : d.line ≤ Reader.maxWord
  column : ∀ k ∈ d.column, k ≤ Reader.maxWord

theorem Diagnostic.readAs {d : Diagnostic} (hfits : d.Fits) :
    d.toJson.ReadAs Diagnostic.ofJson? d := by
  intro w hw
  obtain ⟨r, hr, h⟩ := hw.exists_record ["severity", "message", "context", "line", "column"]
  simp only [List.forall_mem_cons] at h
  obtain ⟨hseverity, hmessage, hcontext, hnumber, hplace, -⟩ := h
  have hoption := readAs_option rfl fun k hk => readAs_count (hfits.column k hk)
  simp only [ofJson?, hr, hseverity.required_eq d.severity.readAs,
    hmessage.required_eq (readAs_text _), hcontext.required_eq (readAs_text _),
    hnumber.required_eq (readAs_count hfits.line), hplace.defaulted_eq hoption, Option.bind_eq_bind,
    Option.bind_some, Option.pure_def]

/-- Bundles and diagnostics survive being handed on. -/
theorem handed_on :
    Faithful Bundle.toJson Bundle.ofJson? Bundle.Fits ∧
      Faithful Diagnostic.toJson Diagnostic.ofJson? Diagnostic.Fits :=
  ⟨.of_plain Bundle.keysOnce (fun _ => Bundle.readAs) fun _ h => Bundle.plain h (n := 0),
    .of_plain Diagnostic.keysOnce (fun _ => Diagnostic.readAs)
      fun _ h => Diagnostic.plain h.line h.column (n := 0)⟩

def sampleSpelling (dialectIds : Option (SortedSet Int64)) : Bundle where
  languageId := 1
  language := "nds"
  pos := "N"
  line := 3
  action := .insert
  variants := [.mk (-1) 2 true dialectIds [⟨none, 4, "Huus\n\"", .generated⟩]
    (.singleton "genus" ∅) true .insert]

/-- A spelling without dialects as yet is not handed on like one that belongs to none. -/
theorem handed_on_unassigned :
    (sampleSpelling none).toJson.normal ≠ (sampleSpelling (some ∅)).toJson.normal := by
  intro h
  have heq := handed_on.1.injective (Nat.le_of_ble_eq_true rfl) (Nat.le_of_ble_eq_true rfl) h
  nomatch congrArg (fun b => b.variants.map Variant.dialectIds) heq

end Wordbook
