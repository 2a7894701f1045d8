import RecordMapping.Calendar
import RecordMapping.Calendar.Reading
import RecordMapping.Conformance.Iteration
import RecordMapping.Conformance.Reading
import RecordMapping.Conformance.Sample
import RecordMapping.Conformance.Suite
import RecordMapping.Conformance.Transactions
import RecordMapping.Conformance.Trial
import RecordMapping.Conformance.Writing
import RecordMapping.Connection
import RecordMapping.Connection.Recorded
import RecordMapping.Connection.Script
import RecordMapping.DeleteKey
import RecordMapping.Dialect
import RecordMapping.Failure
import RecordMapping.Failure.Configuration
import RecordMapping.Json.Document
import RecordMapping.Json.Leaf
import RecordMapping.Json.Outline
import RecordMapping.Json.Shape
import RecordMapping.Json.Token
import RecordMapping.Number.Binary
import RecordMapping.Number.Binary.Shortest
import RecordMapping.Number.Binary.Text
import RecordMapping.Number.Decimal
import RecordMapping.Number.Decimal.Binary
import RecordMapping.Number.Decimal.Text
import RecordMapping.Number.IntType
import RecordMapping.Proofs.AddressedRows
import RecordMapping.Proofs.BinaryOperations
import RecordMapping.Proofs.BinaryRounding
import RecordMapping.Proofs.CalendarReading
import RecordMapping.Proofs.ChangeCounts
import RecordMapping.Proofs.ChangeReading
import RecordMapping.Proofs.CheckedCalls
import RecordMapping.Proofs.ChunkedIteration
import RecordMapping.Proofs.ColumnLookup
import RecordMapping.Proofs.CursorHistories
import RecordMapping.Proofs.DataFaults
import RecordMapping.Proofs.DealtParameters
import RecordMapping.Proofs.DecimalExpansion
import RecordMapping.Proofs.DecimalRecovery
import RecordMapping.Proofs.DecimalRounding
import RecordMapping.Proofs.DeclaredItems
import RecordMapping.Proofs.DigitReading
import RecordMapping.Proofs.Excerpts
import RecordMapping.Proofs.FailureKinds
import RecordMapping.Proofs.FieldLists
import RecordMapping.Proofs.FlawedCalls
import RecordMapping.Proofs.HeldBindings
import RecordMapping.Proofs.InsertReading
import RecordMapping.Proofs.InsertedFields
import RecordMapping.Proofs.IntegerReading
import RecordMapping.Proofs.JoinedLayouts
import RecordMapping.Proofs.KeyForms
import RecordMapping.Proofs.KeyOrder
import RecordMapping.Proofs.KeyResolution
import RecordMapping.Proofs.LabelCache
import RecordMapping.Proofs.LosslessConversions
import RecordMapping.Proofs.MissingRecords
import RecordMapping.Proofs.OwnContents
import RecordMapping.Proofs.PlannedUpdates
import RecordMapping.Proofs.QualifiedDeletes
import RecordMapping.Proofs.QuotedNames
import RecordMapping.Proofs.QuotedReading
import RecordMapping.Proofs.ReadingAgreement
import RecordMapping.Proofs.RecordReading
import RecordMapping.Proofs.RecordedRuns
import RecordMapping.Proofs.ReplyContents
import RecordMapping.Proofs.ReportedKeys
import RecordMapping.Proofs.RowArrangement
import RecordMapping.Proofs.SavedTables
import RecordMapping.Proofs.ScanPrefixes
import RecordMapping.Proofs.ScannedColumns
import RecordMapping.Proofs.ScriptRuns
import RecordMapping.Proofs.ScriptStatements
import RecordMapping.Proofs.SelectKeyword
import RecordMapping.Proofs.SelectionAgreement
import RecordMapping.Proofs.SeparatedItems
import RecordMapping.Proofs.SqliteTransactions
import RecordMapping.Proofs.StatementGrammar
import RecordMapping.Proofs.StatementRuns
import RecordMapping.Proofs.StoredColumns
import RecordMapping.Proofs.StoredDecimals
import RecordMapping.Proofs.StoredValues
import RecordMapping.Proofs.TextOffsets
import RecordMapping.Proofs.TimestampReading
import RecordMapping.Proofs.TransactionProtocol
import RecordMapping.Proofs.UpdatePartition
import RecordMapping.Proofs.UuidReading
import RecordMapping.Proofs.WriteBack
import RecordMapping.Provider
import RecordMapping.Provider.Call
import RecordMapping.Provider.Chunks
import RecordMapping.Provider.Transaction
import RecordMapping.Record
import RecordMapping.Record.Declaration
import RecordMapping.Record.Layout
import RecordMapping.Record.Metadata
import RecordMapping.Scan.Cursor
import RecordMapping.Scan.Scanner
import RecordMapping.Sqlite.Binding
import RecordMapping.Sqlite.Command
import RecordMapping.Sqlite.Connection
import RecordMapping.Sqlite.Database
import RecordMapping.Sqlite.Datum
import RecordMapping.Sqlite.Fault
import RecordMapping.Sqlite.Machine
import RecordMapping.Sqlite.Plan
import RecordMapping.Sqlite.Run
import RecordMapping.Sqlite.Session
import RecordMapping.Sqlite.Token
import RecordMapping.Statement
import RecordMapping.Statement.Change
import RecordMapping.Statement.Insertion
import RecordMapping.Statement.Selection
import RecordMapping.Table
import RecordMapping.Text.Blank
import RecordMapping.Text.Column
import RecordMapping.Text.Digits
import RecordMapping.Text.Excerpt
import RecordMapping.Text.Quoted
import RecordMapping.Text.Separated
import RecordMapping.Text.Utf8
import RecordMapping.Uuid
import RecordMapping.Value
import RecordMapping.Value.Conversion
