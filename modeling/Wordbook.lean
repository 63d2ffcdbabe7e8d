import Wordbook.Cell.Auxiliary
import Wordbook.Cell.Error
import Wordbook.Cell.Genus
import Wordbook.Cell.Parts
import Wordbook.Command.Actions
import Wordbook.Command.Arguments
import Wordbook.Command.EnvFile
import Wordbook.Command.Folder
import Wordbook.Command.Script
import Wordbook.Config
import Wordbook.Config.Record
import Wordbook.Creation
import Wordbook.Creator
import Wordbook.Csv
import Wordbook.Diagnostic
import Wordbook.Dialect
import Wordbook.Grammar.Base
import Wordbook.Grammar.Noun
import Wordbook.Grammar.Verb
import Wordbook.Import.Line
import Wordbook.Import.Provider
import Wordbook.Import.RowResult
import Wordbook.Import.Stats
import Wordbook.Importer
import Wordbook.Json
import Wordbook.Json.Double
import Wordbook.Json.Reader
import Wordbook.Json.Record
import Wordbook.Json.Value
import Wordbook.Json.Writer
import Wordbook.Lexeme
import Wordbook.Lexeme.Document
import Wordbook.Lexeme.Record
import Wordbook.Lexeme.Schema
import Wordbook.Main
import Wordbook.Order.SortedMap
import Wordbook.Order.SortedSet
import Wordbook.Paradigm
import Wordbook.Proofs.Accounting
import Wordbook.Proofs.Alignment
import Wordbook.Proofs.AllOrNothing
import Wordbook.Proofs.Blanks
import Wordbook.Proofs.Bundle
import Wordbook.Proofs.Bytes
import Wordbook.Proofs.Cell
import Wordbook.Proofs.Chain
import Wordbook.Proofs.Check
import Wordbook.Proofs.ConfigText
import Wordbook.Proofs.CreatorCalls
import Wordbook.Proofs.CsvText
import Wordbook.Proofs.Delimited
import Wordbook.Proofs.Determined
import Wordbook.Proofs.Distribution
import Wordbook.Proofs.Document
import Wordbook.Proofs.Encoding
import Wordbook.Proofs.Escapes
import Wordbook.Proofs.Events
import Wordbook.Proofs.Except
import Wordbook.Proofs.Faultless
import Wordbook.Proofs.FirstFailure
import Wordbook.Proofs.Folder
import Wordbook.Proofs.Grammar
import Wordbook.Proofs.HandOff
import Wordbook.Proofs.Ids
import Wordbook.Proofs.ImportCommand
import Wordbook.Proofs.Isolation
import Wordbook.Proofs.Joined
import Wordbook.Proofs.JsonOrder
import Wordbook.Proofs.JsonRecord
import Wordbook.Proofs.JsonScalar
import Wordbook.Proofs.JsonText
import Wordbook.Proofs.LexemeCell
import Wordbook.Proofs.Lifecycle
import Wordbook.Proofs.LongForms
import Wordbook.Proofs.NounCell
import Wordbook.Proofs.Numbering
import Wordbook.Proofs.Parentheses
import Wordbook.Proofs.Provider
import Wordbook.Proofs.Report
import Wordbook.Proofs.Resolution
import Wordbook.Proofs.Row
import Wordbook.Proofs.Rows
import Wordbook.Proofs.Run
import Wordbook.Proofs.Schema
import Wordbook.Proofs.Script
import Wordbook.Proofs.Separators
import Wordbook.Proofs.SingleCell
import Wordbook.Proofs.Sketch
import Wordbook.Proofs.SlotOrder
import Wordbook.Proofs.Spelling
import Wordbook.Proofs.Stored
import Wordbook.Proofs.TrailingBlock
import Wordbook.Proofs.Trim
import Wordbook.Proofs.TrimmedForms
import Wordbook.Proofs.Utf8
import Wordbook.Proofs.ValidRun
import Wordbook.Proofs.Validation
import Wordbook.Proofs.Validity
import Wordbook.Proofs.VerbCell
import Wordbook.Proofs.Written
import Wordbook.Reference
import Wordbook.Report
import Wordbook.Row
import Wordbook.Row.Layout
import Wordbook.Schema
import Wordbook.Schema.Dialect
import Wordbook.Schema.Document
import Wordbook.Schema.Format
import Wordbook.Schema.Pattern
import Wordbook.Schema.Reader
import Wordbook.Schema.Violation
import Wordbook.Source
import Wordbook.Text.Alphanumeric
import Wordbook.Text.Base64
import Wordbook.Text.Blank
import Wordbook.Text.CaseTable
import Wordbook.Text.Digit
import Wordbook.Text.Lower
import Wordbook.Text.Ranges
import Wordbook.Text.Split
import Wordbook.Text.Surrogate
import Wordbook.Text.Utf8
import Wordbook.Uri
