import BoundSql.Calendar
import BoundSql.Calendar.Reader
import BoundSql.Calendar.Writer
import BoundSql.Condition
import BoundSql.Condition.Json
import BoundSql.Config
import BoundSql.Database
import BoundSql.Declaration.Attribute
import BoundSql.Declaration.Definition
import BoundSql.Declaration.Expression
import BoundSql.Declaration.Grammar
import BoundSql.Declaration.Item
import BoundSql.Declaration.Language
import BoundSql.Declaration.Lexer
import BoundSql.Declaration.Pattern
import BoundSql.Declaration.Phrase
import BoundSql.Declaration.Position
import BoundSql.Declaration.Record
import BoundSql.Declaration.Statement
import BoundSql.Declaration.Table
import BoundSql.Declaration.Token
import BoundSql.Declaration.Type
import BoundSql.Engine.Affinity
import BoundSql.Engine.Cell
import BoundSql.Engine.Expression
import BoundSql.Engine.Expression.Reader
import BoundSql.Engine.Keyword
import BoundSql.Engine.Location
import BoundSql.Engine.Memory
import BoundSql.Engine.Numeral
import BoundSql.Engine.Operator
import BoundSql.Engine.Parameter
import BoundSql.Engine.Selection
import BoundSql.Engine.Token
import BoundSql.Entity
import BoundSql.Error
import BoundSql.FieldType
import BoundSql.Files
import BoundSql.Filter
import BoundSql.Json
import BoundSql.Json.Inspect
import BoundSql.Json.Reader
import BoundSql.Json.Writer
import BoundSql.Number.Decimal
import BoundSql.Number.Digits
import BoundSql.Number.Extended
import BoundSql.Number.Layout
import BoundSql.Number.Literal
import BoundSql.Number.Scaling
import BoundSql.Number.Shortest
import BoundSql.Pairs
import BoundSql.Params
import BoundSql.Path
import BoundSql.Repository
import BoundSql.Row
import BoundSql.Schema
import BoundSql.Statement.Argument
import BoundSql.Statement.Builder
import BoundSql.Statement.Execution
import BoundSql.Statement.Rules
import BoundSql.Struct
import BoundSql.Text.Blank
import BoundSql.Text.Hidden
import BoundSql.Text.Identifier
import BoundSql.Text.Join
import BoundSql.Text.LetterCase
import BoundSql.Text.Quoted
import BoundSql.Text.Run
import BoundSql.Text.SnakeCase
import BoundSql.Text.Utf8
import BoundSql.Toml
import BoundSql.Toml.Reader
import BoundSql.Toml.Scalar
import BoundSql.Toml.Text
import BoundSql.Uuid
import BoundSql.Value
import BoundSql.Proofs.Statement.Calls
import BoundSql.Proofs.Statement.Draft
import BoundSql.Proofs.Condition.Bound
import BoundSql.Proofs.Condition.Meaning
import BoundSql.Proofs.OrderedBindings
import BoundSql.Proofs.FreshNames
import BoundSql.Proofs.Condition.Naming
import BoundSql.Proofs.Condition.Documents
import BoundSql.Proofs.Condition.FilterDocuments
import BoundSql.Proofs.Statement.Grammar
import BoundSql.Proofs.Statement.Sentence
import BoundSql.Proofs.Statement.Redaction
import BoundSql.Proofs.Statement.Frozen
import BoundSql.Proofs.Statement.Coherence
import BoundSql.Proofs.Statement.Recorded
import BoundSql.Proofs.Statement.Phrases
import BoundSql.Proofs.Statement.NormalRow
import BoundSql.Proofs.Execution.WholeSelect
import BoundSql.Proofs.Execution.KeyedRow
import BoundSql.Proofs.Execution.Saving
import BoundSql.Proofs.Execution.Secrecy
import BoundSql.Proofs.Execution.LoggedStatements
import BoundSql.Proofs.Declaration.DerivedRecord
import BoundSql.Proofs.Declaration.Grouping
import BoundSql.Proofs.Content.Storage
import BoundSql.Proofs.Engine.Binding
import BoundSql.Proofs.Engine.Placeholders
import BoundSql.Proofs.Calendar.Form
import BoundSql.Proofs.Calendar.Reading
import BoundSql.Proofs.Content.Dates
import BoundSql.Proofs.Content.JsonIntegers
import BoundSql.Proofs.Statement.Placeholders
