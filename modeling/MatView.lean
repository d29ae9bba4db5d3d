import MatView.Catalog.Basic
import MatView.Catalog.Load
import MatView.Catalog.Source
import MatView.Config.Basic
import MatView.Config.Load
import MatView.Decimal.Binary
import MatView.Decimal.Layout
import MatView.Decimal.Shortest
import MatView.Decoding.Decoder
import MatView.Decoding.Reading
import MatView.Error
import MatView.Json.Numeral
import MatView.Json.Print
import MatView.Json.Record
import MatView.Json.ToValue
import MatView.Json.Tree
import MatView.Logical.DataType
import MatView.Logical.Value
import MatView.Query.Adapter
import MatView.Query.Basic
import MatView.Query.OfStatement
import MatView.Query.Plan
import MatView.Service.Basic
import MatView.Service.Session
import MatView.Sql.Alteration
import MatView.Sql.Call
import MatView.Sql.Change
import MatView.Sql.Command
import MatView.Sql.Constant
import MatView.Sql.Definition
import MatView.Sql.DocumentTable
import MatView.Sql.Expression
import MatView.Sql.Form
import MatView.Sql.Lexer
import MatView.Sql.Literal
import MatView.Sql.Query
import MatView.Sql.Reader
import MatView.Sql.Relation
import MatView.Sql.Routine
import MatView.Sql.RowPattern
import MatView.Sql.Select
import MatView.Sql.Statement
import MatView.Sql.TimeField
import MatView.Sql.Token
import MatView.Sql.Tree
import MatView.Sql.TypeName
import MatView.Sql.Vocabulary
import MatView.Store.Basic
import MatView.Store.Cell
import MatView.Store.CellText
import MatView.Store.CellValue
import MatView.Store.ColumnType
import MatView.Store.Read
import MatView.Text.Ascii
import MatView.Text.Calendar
import MatView.Text.Integer
import MatView.Text.Keyword
import MatView.Unicode.Alphabetic
import MatView.Unicode.Blank
import MatView.Unicode.Graphic
import MatView.Unicode.Numeric
import MatView.Unicode.Ranges
import MatView.Unicode.Upper
import MatView.Unicode.Utf8
import MatView.Window.Format
import MatView.Window.Key
import MatView.Proofs.Service.Faults
import MatView.Proofs.Service.Recording
import MatView.Proofs.Query.Adapted
import MatView.Proofs.Query.Addressed
import MatView.Proofs.Query.KeyFetch
import MatView.Proofs.Service.Routing
import MatView.Proofs.Query.Outer
import MatView.Proofs.Query.Reparsed
import MatView.Proofs.Outcome
import MatView.Proofs.Decoding.KeyDamage
import MatView.Proofs.Json.Normal
import MatView.Proofs.Json.ReadBack
import MatView.Proofs.Window.Codec
import MatView.Proofs.Window.Documents
import MatView.Proofs.Query.NameList
import MatView.Proofs.Query.Keyed
import MatView.Proofs.Sql.Columns
import MatView.Proofs.Sql.SelectList
import MatView.Proofs.Sql.Casing
import MatView.Proofs.Sql.UpperList
import MatView.Proofs.Query.Columns
import MatView.Proofs.Text.Folding
import MatView.Proofs.Unicode.ByteOrder
import MatView.Proofs.Catalog.History
import MatView.Proofs.Store.History
import MatView.Proofs.Query.KeyClash
import MatView.Proofs.Query.Respelled
import MatView.Proofs.Service.Respelled
import MatView.Proofs.Decoding.KeyColumn
import MatView.Proofs.Decoding.Nulls
import MatView.Proofs.Query.ScanClause
import MatView.Proofs.Query.Items
import MatView.Proofs.Decoding.Items
import MatView.Proofs.Decoding.AllColumns
import MatView.Proofs.Decoding.Shape
import MatView.Proofs.Decoding.Readings
import MatView.Proofs.Decoding.Offsets
import MatView.Proofs.Window.Intervals
import MatView.Proofs.Unicode.UpperForms
import MatView.Proofs.Text.UpperSearch
import MatView.Proofs.Query.Head
import MatView.Proofs.Query.Requested
import MatView.Proofs.Store.Milliseconds
import MatView.Proofs.Decoding.Exact
import MatView.Proofs.Service.Precision
import MatView.Proofs.Query.Semicolons
import MatView.Proofs.Config.Spelling
import MatView.Proofs.Config.Overrides
import MatView.Proofs.Query.CharacterCuts
import MatView.Proofs.Text.FirstWord
