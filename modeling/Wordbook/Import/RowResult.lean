import Wordbook.Import.Provider

/-!
# What a row comes to

Each provider with a creator for the part of speech of a row makes bundles of
it, one per lexeme. Where one of them fails, the row has no bundles at all, and
an error that names the provider.

* `buildRow`: one row, which sees nothing of the others but the next id;
* `buildRows`: all rows, in their order.
-/

namespace Wordbook

/-- Why a row has no bundles: the error of a provider and the column that it belongs to. -/
structure RowFailure where
  context : String
  column : Nat
  error : CellError
  deriving DecidableEq, Repr

def RowFailure.diagnostic (f : RowFailure) (line : Nat) : Diagnostic :=
  ⟨.error, f.error.message, f.context, line, some f.column⟩

/-- The making of something from a row. What it has done to the ledger stays when it fails. -/
abbrev RowBuild := ExceptT RowFailure (StateT Ledger (Except Fault))

namespace RowBuild

variable {α : Type}

/-- Goes on unless the program itself is at fault. -/
def ofFault (r : Except Fault α) : RowBuild α := fun ledger => r.map fun a => (.ok a, ledger)

/-- A creation from the cell of a column. -/
def ofCreation (context : String) (column : Nat) (creation : Creation α) : RowBuild α :=
  fun ledger =>
    let (result, ledger) := creation ledger
    .ok (result.mapError (⟨context, column, ·⟩), ledger)

/-- The reading of the cell of a column. -/
def ofCell (context : String) (column : Nat) (r : Except CellError α) : RowBuild α :=
  fun ledger => .ok (r.mapError (⟨context, column, ·⟩), ledger)

end RowBuild

namespace Provider

/-- The lexemes that a creator finds in a row, with their dialects. -/
def lexemes (p : Provider) (bound : BoundCreator) (tag : String) (row : Row) :
    RowBuild (List (List Variant)) := do
  let label := p.label tag
  let column := bound.creator.column
  let creation ← RowBuild.ofFault (bound.creator.createLexemes label p.orthographyId row)
  let lexemes ← RowBuild.ofCreation label column creation
  lexemes.mapM fun variants =>
    RowBuild.ofCell label (bound.dialectColumn.getD column)
      (p.dialects.distribute variants row bound.dialectColumn)

def bundle (p : Provider) (tag : String) (row : Row) (variants : List Variant) : Bundle where
  languageId := p.language.id
  language := p.language.code
  pos := tag
  line := row.line
  action := .insert
  variants := variants

/-- The bundles that a provider makes of a row, none if it has no creator for it. -/
def bundles (p : Provider) (tag : String) (row : Row) : RowBuild (List Bundle) :=
  match p.creator? tag with
  | none => return []
  | some bound => do return (← p.lexemes bound tag row).map (p.bundle tag row)

end Provider

/-- The bundles that all providers make of a row. -/
def rowBundles (providers : List Provider) (tag : String) (row : Row) : RowBuild (List Bundle) := do
  return (← providers.mapM fun p => p.bundles tag row).flatten

/-- What a row comes to. -/
structure RowResult where
  /-- The ids that the row has drawn. -/
  ids : IdSequence
  diagnostics : List Diagnostic
  /-- The bundles of the row, unless some provider has failed. -/
  bundles : Option (List Bundle)
  deriving DecidableEq

/-- The id of the next variant. -/
def RowResult.nextId (r : RowResult) : Int64 := r.ids.next

/-- What a row comes to, with the id of its first variant. -/
def buildRow (providers : List Provider) (posColumn : Nat) (row : Row) (nextId : Int64) :
    Except Fault RowResult :=
  match rowBundles providers (row.cell posColumn) row ⟨nextId, []⟩ with
  | .error fault => .error fault
  | .ok (.ok bundles, ledger) => .ok ⟨ledger.ids, ledger.diagnostics, some bundles⟩
  | .ok (.error failure, ledger) =>
    .ok ⟨ledger.ids, ledger.diagnostics ++ [failure.diagnostic row.line], none⟩

/-- What some rows come to, with the id of their first variant. -/
def buildRows (providers : List Provider) (posColumn : Nat) :
    List Row → Int64 → Except Fault (List RowResult)
  | [], _ => .ok []
  | row :: rows, nextId => do
    let result ← buildRow providers posColumn row nextId
    return result :: (← buildRows providers posColumn rows result.nextId)

end Wordbook
