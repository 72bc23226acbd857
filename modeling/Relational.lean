import Relational.Calendar
import Relational.Cell
import Relational.Column
import Relational.CommandLine
import Relational.Condition
import Relational.Condition.Lexer
import Relational.Condition.Parser
import Relational.Condition.Token
import Relational.Constraint
import Relational.DataType
import Relational.DataType.Conversion
import Relational.Database
import Relational.Database.Change
import Relational.Database.Rules
import Relational.Decimal.Binary
import Relational.Decimal.Fixed
import Relational.Decimal.Numeral
import Relational.Decimal.Power
import Relational.Decimal.Shortest
import Relational.Directory
import Relational.Encoding
import Relational.Entries
import Relational.Evaluation
import Relational.Execution.Declaration
import Relational.Execution.Query
import Relational.Execution.Result
import Relational.Execution.Rows
import Relational.Expr
import Relational.Failure
import Relational.Http
import Relational.Http.Address
import Relational.Index
import Relational.Json.Basic
import Relational.Json.Bytes
import Relational.Json.Decode
import Relational.Json.Display
import Relational.Json.Parser
import Relational.Json.Printer
import Relational.Main
import Relational.Name
import Relational.NullText
import Relational.Plan
import Relational.Proofs.AffectedRows
import Relational.Proofs.Agreement
import Relational.Proofs.Calendar
import Relational.Proofs.Calendar.Places
import Relational.Proofs.Clock
import Relational.Proofs.Condition.Case
import Relational.Proofs.Condition.Ending
import Relational.Proofs.Condition.Lexer
import Relational.Proofs.Condition.Numeral
import Relational.Proofs.Condition.Operand
import Relational.Proofs.Condition.Printer
import Relational.Proofs.Condition.Quotes
import Relational.Proofs.Condition.Reading
import Relational.Proofs.Condition.Recased
import Relational.Proofs.Condition.RoundTrip
import Relational.Proofs.Condition.SmallNames
import Relational.Proofs.ConstraintNames
import Relational.Proofs.Database.Alike
import Relational.Proofs.Database.Answers
import Relational.Proofs.Database.Atomicity
import Relational.Proofs.Database.Backed
import Relational.Proofs.Database.CheckedRows
import Relational.Proofs.Database.Content
import Relational.Proofs.Database.Demands
import Relational.Proofs.Database.Durability
import Relational.Proofs.Database.FailedLoading
import Relational.Proofs.Database.Files
import Relational.Proofs.Database.Indexes
import Relational.Proofs.Database.Keys
import Relational.Proofs.Database.Loading
import Relational.Proofs.Database.Numbering
import Relational.Proofs.Database.Reachable
import Relational.Proofs.Database.References
import Relational.Proofs.Database.Reload
import Relational.Proofs.Database.Rules
import Relational.Proofs.Database.Run
import Relational.Proofs.Database.SelfReferences
import Relational.Proofs.Database.StoredRows
import Relational.Proofs.Database.Transition
import Relational.Proofs.Database.TypeRules
import Relational.Proofs.Database.UniqueIndexes
import Relational.Proofs.Decimal
import Relational.Proofs.Decimal.Binary
import Relational.Proofs.Decimal.Reading
import Relational.Proofs.DeclaredBounds
import Relational.Proofs.DeclaredRules
import Relational.Proofs.Declares
import Relational.Proofs.Defaults
import Relational.Proofs.Delete
import Relational.Proofs.Encoding
import Relational.Proofs.Encoding.Shapes
import Relational.Proofs.Entries
import Relational.Proofs.Equality
import Relational.Proofs.Evaluation
import Relational.Proofs.Evaluation.Equivalence
import Relational.Proofs.Evaluation.Faults
import Relational.Proofs.Evaluation.Minus
import Relational.Proofs.Evaluation.Nulls
import Relational.Proofs.Evaluation.Raised
import Relational.Proofs.Evaluation.SmallNames
import Relational.Proofs.Execution
import Relational.Proofs.Failure
import Relational.Proofs.Index
import Relational.Proofs.IndexChoice
import Relational.Proofs.Json.RoundTrip
import Relational.Proofs.Json.Scalars
import Relational.Proofs.NullSpelling
import Relational.Proofs.Numbering
import Relational.Proofs.Plan
import Relational.Proofs.Query
import Relational.Proofs.Recased
import Relational.Proofs.Reload
import Relational.Proofs.Schema.Built
import Relational.Proofs.Schema.CheckLevels
import Relational.Proofs.Schema.Columns
import Relational.Proofs.Schema.Declared
import Relational.Proofs.Schema.Document
import Relational.Proofs.Schema.Limits
import Relational.Proofs.Schema.Nulls
import Relational.Proofs.Schema.Rows
import Relational.Proofs.Schema.Scope
import Relational.Proofs.Schema.Standing
import Relational.Proofs.SelfAssignment
import Relational.Proofs.Session
import Relational.Proofs.Shell.Lines
import Relational.Proofs.Shell.Rendering
import Relational.Proofs.SmallNames
import Relational.Proofs.Sorting
import Relational.Proofs.Sorting.Mapped
import Relational.Proofs.Sorting.Merge
import Relational.Proofs.Sorting.Run
import Relational.Proofs.Sorting.Search
import Relational.Proofs.Sql.Capture
import Relational.Proofs.Sql.Defaults
import Relational.Proofs.Sql.Definition
import Relational.Proofs.Sql.Ending
import Relational.Proofs.Sql.Lexer
import Relational.Proofs.Sql.Limit
import Relational.Proofs.Sql.Order
import Relational.Proofs.Sql.Parser
import Relational.Proofs.Sql.Passing
import Relational.Proofs.Sql.Quoting
import Relational.Proofs.Sql.Recased
import Relational.Proofs.Sql.RecasedParser
import Relational.Proofs.Sql.RoundTrip
import Relational.Proofs.Sql.Tiling
import Relational.Proofs.Storage
import Relational.Proofs.Text.Blank
import Relational.Proofs.Text.Case
import Relational.Proofs.Text.Letter
import Relational.Proofs.Text.Pattern
import Relational.Proofs.Update
import Relational.Proofs.Validation
import Relational.Proofs.Value
import Relational.Proofs.Value.Arithmetic
import Relational.Proofs.Value.Casting
import Relational.Proofs.Value.Meaning
import Relational.Proofs.Value.Mirror
import Relational.Proofs.Value.Order
import Relational.Proofs.Value.Preorder
import Relational.Proofs.Value.Spelling
import Relational.Refusal
import Relational.Rejection
import Relational.Report
import Relational.Schema
import Relational.Schema.Document
import Relational.Session
import Relational.Settings
import Relational.Shell
import Relational.Sorting
import Relational.Sorting.Merge
import Relational.Sorting.Run
import Relational.Sorting.Search
import Relational.Sql.Lexer
import Relational.Sql.Parser
import Relational.Sql.Statement
import Relational.Sql.Token
import Relational.Storage
import Relational.Text.Blank
import Relational.Text.Case
import Relational.Text.Grid
import Relational.Text.Letter
import Relational.Text.Pattern
import Relational.Text.Position
import Relational.Text.Quoted
import Relational.Text.Terminal
import Relational.Unicode.Casing
import Relational.Unicode.Letters
import Relational.Unicode.Printable
import Relational.Unicode.Ranges
import Relational.Value
import Relational.Value.Arithmetic
import Relational.Value.Order
