import TypedSql.Adapter
import TypedSql.Binary64.Basic
import TypedSql.Binary64.Rounding
import TypedSql.Binary64.Shortest
import TypedSql.Calendar.Instant
import TypedSql.Calendar.Rfc3339
import TypedSql.Codec
import TypedSql.ColumnType
import TypedSql.CommandLine.Arguments
import TypedSql.CommandLine.DatabaseFile
import TypedSql.CommandLine.Folder
import TypedSql.CommandLine.Report
import TypedSql.ConnectionConfig
import TypedSql.Decimal
import TypedSql.Dialect
import TypedSql.Dictionary
import TypedSql.Engine.Affinity
import TypedSql.Engine.Condition
import TypedSql.Engine.Connection
import TypedSql.Engine.Database
import TypedSql.Engine.Error
import TypedSql.Engine.Location
import TypedSql.Engine.Numeral
import TypedSql.Engine.Table
import TypedSql.Expr
import TypedSql.Json.Basic
import TypedSql.Json.Fields
import TypedSql.Json.Number
import TypedSql.Json.Printer
import TypedSql.Json.Reader
import TypedSql.Kleene
import TypedSql.Main
import TypedSql.Proofs.Literals
import TypedSql.Proofs.Lookup
import TypedSql.Proofs.NormalForm
import TypedSql.Proofs.Outcome
import TypedSql.Proofs.Phrases
import TypedSql.Proofs.Placeholders
import TypedSql.Proofs.Scope
import TypedSql.Proofs.Tokens
import TypedSql.Proofs.Written
import TypedSql.Proofs.Wording
import TypedSql.Render.Error
import TypedSql.Render.Expr
import TypedSql.Render.Fragment
import TypedSql.Render.Statement
import TypedSql.Request
import TypedSql.Schema.Column
import TypedSql.Schema.Diagnostic
import TypedSql.Schema.Resolution
import TypedSql.Schema.Table
import TypedSql.SchemaFile
import TypedSql.Sql.Command
import TypedSql.Sql.Phrase
import TypedSql.Sql.Term
import TypedSql.Sql.Token
import TypedSql.Statement.CreateTable
import TypedSql.Statement.Delete
import TypedSql.Statement.Insert
import TypedSql.Statement.Output
import TypedSql.Statement.Select
import TypedSql.Stored
import TypedSql.Text.Escaped
import TypedSql.Text.LetterCase
import TypedSql.Text.Quoted
import TypedSql.Text.SnakeCase
import TypedSql.Text.Utf8
import TypedSql.Validation
import TypedSql.Value
import TypedSql.Proofs.Reading
import TypedSql.Proofs.Precedence
import TypedSql.Proofs.Aliases
import TypedSql.Proofs.Faults
import TypedSql.Proofs.Parameters
import TypedSql.Proofs.Mapping
import TypedSql.Proofs.Payload
import TypedSql.Proofs.Outline
import TypedSql.Proofs.Parting
import TypedSql.Proofs.Shape
import TypedSql.Proofs.Definition
import TypedSql.Proofs.Validity
import TypedSql.Proofs.Producers
import TypedSql.Proofs.Defaults
import TypedSql.Proofs.Clauses
import TypedSql.Proofs.Template
import TypedSql.Proofs.Renaming
import TypedSql.Proofs.SnakeCase
import TypedSql.Proofs.Refusal
import TypedSql.Proofs.ColumnNames
import TypedSql.Proofs.TableText
import TypedSql.Proofs.Keys
import TypedSql.Proofs.Nearest
import TypedSql.Proofs.RoundTrip
import TypedSql.Proofs.Decoding
import TypedSql.Proofs.Calls
import TypedSql.Proofs.Transactions
import TypedSql.Proofs.FileDefaults
import TypedSql.Proofs.FailedInserts
import TypedSql.Proofs.Issues
import TypedSql.Proofs.Conjunction
import TypedSql.Proofs.References
import TypedSql.Proofs.Shortest
import TypedSql.Proofs.RoundedIntegers
import TypedSql.Proofs.Narrowing
import TypedSql.Proofs.DefaultLiterals
import TypedSql.Proofs.OutputNames
import TypedSql.Proofs.IntegerLiterals
import TypedSql.Proofs.IntegerDefaults
import TypedSql.Proofs.DeclaredSizes
import TypedSql.Proofs.DefaultAgreement
import TypedSql.Proofs.ReadableJson
import TypedSql.Proofs.StoredOrder
import TypedSql.Proofs.Serialization
import TypedSql.Proofs.LetterTables
import TypedSql.Proofs.Separators
import TypedSql.Proofs.Reconversion
import TypedSql.Proofs.QuotedNames
