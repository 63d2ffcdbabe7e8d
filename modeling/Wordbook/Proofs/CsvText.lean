import Mathlib.Data.List.Forall2
import Wordbook.Diagnostic
import Wordbook.Text.Digit

/-!
# Comma-separated values that are read back

A reader takes a text apart in one pass. It is strict: quotes and carriage
returns stand between quotes only, and every record ends with a line feed. So
what it reads is read alike by readers that put up with more.

* `Csv.read?_flatten_record`: records of any texts are read back;
* `Diagnostic.ofRecord?`: the diagnostic that a record is about;
* `Diagnostics.csv_recovers`: no diagnostic is lost, and no two lists of them
  are written alike.
-/

namespace Wordbook

namespace Csv

/-- Where a reader stands in a field. -/
inductive Place where
  /-- In front of it. -/
  | start
  /-- In a field without quotes. -/
  | plain
  /-- Between quotes. -/
  | quoted
  /-- Behind a quote, which closes the field or is the first one of two. -/
  | closed
  deriving DecidableEq

/-- The records of a text. Before it stand the characters of a field and the fields of a record,
both last first. -/
def scan : Place → List Char → List String → List Char → Option (List (List String))
  | place, _, fields, [] => if place = .start ∧ fields = [] then some [] else none
  | .quoted, field, fields, c :: t =>
    if c = '"' then scan .closed field fields t else scan .quoted (c :: field) fields t
  | place, field, fields, c :: t =>
    if c = ',' then scan .start [] (String.ofList field.reverse :: fields) t
    else if c = '\n' then
      (scan .start [] [] t).map ((String.ofList field.reverse :: fields).reverse :: ·)
    else if c = '"' then
      match place with
      | .start => scan .quoted [] fields t
      | .closed => scan .quoted ('"' :: field) fields t
      | _ => none
    else if place = .closed ∨ c = '\r' then none
    else scan .plain (c :: field) fields t

/-- The records of a text. -/
def read? (t : List Char) : Option (List (List String)) := scan .start [] [] t

variable {place : Place} {chars : List Char} {fields : List String}

theorem scan_comma (h : place ≠ .quoted) (rest : List Char) :
    scan place chars fields (',' :: rest) =
      scan .start [] (String.ofList chars.reverse :: fields) rest := by
  cases place <;> first | rfl | exact absurd rfl h

theorem scan_feed (h : place ≠ .quoted) (rest : List Char) :
    scan place chars fields ('\n' :: rest) =
      (scan .start [] [] rest).map ((String.ofList chars.reverse :: fields).reverse :: ·) := by
  cases place <;> first | rfl | exact absurd rfl h

/-- A character that needs no quotes around it stands for itself. -/
theorem scan_plain {c : Char} (hc : needsQuotes [c] = false) (h : place = .start ∨ place = .plain)
    (rest : List Char) :
    scan place chars fields (c :: rest) = scan .plain (c :: chars) fields rest := by
  simp only [needsQuotes, List.any_cons, List.any_nil, Bool.or_false, Bool.or_eq_false_iff,
    beq_eq_false_iff_ne] at hc
  obtain ⟨⟨⟨hcomma, hquote⟩, hfeed⟩, hreturn⟩ := hc
  rcases h with rfl | rfl <;> simp [scan, hcomma, hquote, hfeed, hreturn]

theorem scan_plain_append (chars : List Char) (fields : List String) {t : List Char}
    (ht : needsQuotes t = false) (h : place = .start ∨ place = .plain) (rest : List Char) :
    ∃ place', place' ≠ .quoted ∧
      scan place chars fields (t ++ rest) = scan place' (t.reverse ++ chars) fields rest := by
  induction t generalizing place chars with
  | nil => exact ⟨place, by rcases h with rfl | rfl <;> decide, rfl⟩
  | cons c t ih =>
    have hsplit : needsQuotes [c] = false ∧ needsQuotes t = false := by
      simpa [needsQuotes] using ht
    obtain ⟨place', hplace, hscan⟩ := ih (c :: chars) hsplit.2 (.inr rfl)
    refine ⟨place', hplace, ?_⟩
    rw [List.cons_append, scan_plain hsplit.1 h, hscan, List.reverse_cons, List.append_assoc,
      List.singleton_append]

/-- Between quotes, two quotes stand for one. -/
theorem scan_doubleQuotes (t rest : List Char) :
    scan .quoted chars fields (doubleQuotes t ++ '"' :: rest) =
      scan .closed (t.reverse ++ chars) fields rest := by
  induction t generalizing chars with
  | nil => rfl
  | cons c t ih =>
    rw [List.reverse_cons, List.append_assoc, List.singleton_append, ← ih, doubleQuotes]
    split
    · rename_i h
      rw [h]
      rfl
    · rename_i h
      rw [List.cons_append, scan, if_neg h]

/-- A field is read up to what stands behind it. -/
theorem scan_field (fields : List String) (t rest : List Char) : ∃ place, place ≠ .quoted ∧
    scan .start [] fields (field t ++ rest) = scan place t.reverse fields rest := by
  unfold field
  split
  · refine ⟨.closed, by decide, ?_⟩
    have hopen : scan .start [] fields ('"' :: (doubleQuotes t ++ '"' :: rest)) =
        scan .quoted [] fields (doubleQuotes t ++ '"' :: rest) := rfl
    simp only [List.cons_append, List.append_assoc, List.nil_append]
    rw [hopen, scan_doubleQuotes, List.append_nil]
  · rename_i h
    have hplain : needsQuotes t = false := by simpa using h
    obtain ⟨place, hplace, hscan⟩ := scan_plain_append [] fields hplain (.inl rfl) rest
    exact ⟨place, hplace, by rw [hscan, List.append_nil]⟩

/-- The fields of a record are read, behind those that have been read already. -/
theorem scan_record (f : String) (fs : List String) (rest : List Char) :
    scan .start [] fields (record ((f :: fs).map String.toList) ++ rest) =
      (scan .start [] [] rest).map ((fields.reverse ++ f :: fs) :: ·) := by
  induction fs generalizing f fields with
  | nil =>
    obtain ⟨place, hplace, hscan⟩ := scan_field fields f.toList ('\n' :: rest)
    have hrecord : record ([f].map String.toList) ++ rest = field f.toList ++ '\n' :: rest := by
      simp [record]
    rw [hrecord, hscan, scan_feed hplace, List.reverse_reverse, String.ofList_toList,
      List.reverse_cons]
  | cons g gs ih =>
    obtain ⟨place, hplace, hscan⟩ := scan_field fields f.toList
      (',' :: (record ((g :: gs).map String.toList) ++ rest))
    have hrecord : record ((f :: g :: gs).map String.toList) ++ rest =
        field f.toList ++ ',' :: (record ((g :: gs).map String.toList) ++ rest) := by
      simp [record, List.intercalate]
    rw [hrecord, hscan, scan_comma hplace, List.reverse_reverse, String.ofList_toList, ih,
      List.reverse_cons, List.append_assoc, List.singleton_append]

/-- Records that have fields are read back, whatever texts the fields are. -/
theorem read?_flatten_record {records : List (List String)} (h : ∀ fs ∈ records, fs ≠ []) :
    read? (records.map fun fs => record (fs.map String.toList)).flatten = some records := by
  induction records with
  | nil => rfl
  | cons fs records ih =>
    obtain ⟨hfs, hrecords⟩ := List.forall_mem_cons.1 h
    obtain ⟨f, fs, rfl⟩ := List.exists_cons_of_ne_nil hfs
    rw [List.map_cons, List.flatten_cons, read?, scan_record]
    rw [show scan .start [] [] _ = some records from ih hrecords]
    rfl

end Csv

/-! ## Diagnostics -/

/-- The severity with a name. -/
def Severity.ofName? (name : String) : Option Severity :=
  [info, warning, error].find? (·.name == name)

theorem Severity.ofName?_name (s : Severity) : ofName? s.name = some s := by
  cases s <;> decide

namespace Diagnostic

/-- The column in a record, which is empty where there is none. -/
def columnOf? (field : String) : Option (Option Nat) :=
  if field = "" then some none else (Text.decimal? field.toList).map some

/-- The diagnostic that a record is about. -/
def ofRecord? : List String → Option Diagnostic
  | [severity, line, column, context, message] => do
    return {
      severity := ← Severity.ofName? severity
      message := message
      context := context
      line := ← Text.decimal? line.toList
      column := ← columnOf? column }
  | _ => none

/-- A number is the one that its digits are those of. -/
theorem decimal?_toString (n : Nat) : Text.decimal? (toString n).toList = some n := by
  have hall : (Nat.toDigits 10 n).all Text.isDigit :=
    List.all_eq_true.2 fun _ hc => Nat.isDigit_of_mem_toDigits (by decide) (Nat.le_refl _) hc
  have hfold : (Nat.toDigits 10 n).foldl (fun m c => m * 10 + Text.digitValue c) 0 =
      Nat.ofDigitChars 10 (Nat.toDigits 10 n) 0 := by
    simp only [Nat.ofDigitChars, Nat.mul_comm 10]
    rfl
  rw [Nat.toString_eq_ofList_toDigits, String.toList_ofList, Text.decimal?, hfold,
    Nat.ofDigitChars_ten_toDigits]
  simp [hall]

theorem toString_ne_empty (n : Nat) : toString n ≠ "" := by
  intro h
  have hread := decimal?_toString n
  rw [h] at hread
  nomatch hread

theorem columnOf?_getD (column : Option Nat) :
    columnOf? ((column.map toString).getD "") = some column := by
  cases column with
  | none => rfl
  | some k =>
    show columnOf? (toString k) = _
    rw [columnOf?, if_neg (toString_ne_empty k), decimal?_toString]
    rfl

theorem ofRecord?_csvFields (d : Diagnostic) : ofRecord? (Diagnostics.csvFields d) = some d := by
  rw [Diagnostics.csvFields, ofRecord?, Severity.ofName?_name, decimal?_toString, columnOf?_getD]
  rfl

/-- A record that says all of a diagnostic. -/
structure RecordedAs (d : Diagnostic) (row : List String) : Prop where
  length_eq : row.length = 5
  column_iff : row[2]? = some "" ↔ d.column = none
  ofRecord?_eq : ofRecord? row = some d

theorem recordedAs_csvFields (d : Diagnostic) : d.RecordedAs (Diagnostics.csvFields d) := by
  refine ⟨rfl, ?_, ofRecord?_csvFields d⟩
  show some ((d.column.map toString).getD "") = some "" ↔ _
  rw [Option.some.injEq]
  cases d.column with
  | none => exact iff_of_true rfl rfl
  | some k => exact iff_of_false (toString_ne_empty k) nofun

end Diagnostic

namespace Diagnostics

theorem read?_csv (ds : Diagnostics) :
    Csv.read? ds.csv.toList = some (csvHead :: ds.entries.map csvFields) := by
  rw [csv, String.toList_ofList]
  refine Csv.read?_flatten_record (List.forall_mem_cons.2 ⟨by decide, ?_⟩)
  exact List.forall_mem_map.2 fun d _ => List.cons_ne_nil d.severity.name _

theorem csvFields_injective : Function.Injective csvFields := by
  intro d e hde
  have hread : Diagnostic.ofRecord? (csvFields d) = some d := Diagnostic.ofRecord?_csvFields d
  rw [hde, Diagnostic.ofRecord?_csvFields] at hread
  exact (Option.some.inj hread).symm

/-- Under the head line stands one record for each diagnostic, in their order, from which it is
recovered. So lists that differ are written differently. -/
theorem csv_recovers (ds : Diagnostics) :
    (∃ rows, Csv.read? ds.csv.toList = some (csvHead :: rows) ∧
      List.Forall₂ Diagnostic.RecordedAs ds.entries rows) ∧
    ∀ es : Diagnostics, es.csv = ds.csv → es = ds := by
  refine ⟨⟨_, ds.read?_csv, ?_⟩, fun es h => ?_⟩
  · rw [List.forall₂_map_right_iff, List.forall₂_same]
    exact fun d _ => d.recordedAs_csvFields
  · have hread := es.read?_csv
    rw [h, ds.read?_csv] at hread
    have hrows : es.entries.map csvFields = ds.entries.map csvFields :=
      (List.cons.inj (Option.some.inj hread)).2.symm
    cases es
    cases ds
    exact congrArg mk (csvFields_injective.list_map hrows)

/-- Quotes, commas and line ends in a message, and no column. -/
example : Csv.read? (csv ⟨[⟨.error, "a \"b\",\r\nc", "", 7, none⟩]⟩).toList =
    some [csvHead, ["error", "7", "", "", "a \"b\",\r\nc"]] := by
  cbv

end Diagnostics

end Wordbook
