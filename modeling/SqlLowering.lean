import SqlLowering.Binary64
import SqlLowering.Calendar.Date
import SqlLowering.Calendar.Timestamp
import SqlLowering.Command.Basic
import SqlLowering.Command.Draft
import SqlLowering.Command.Json
import SqlLowering.Command.Recipe
import SqlLowering.CommandLine.Arguments
import SqlLowering.CommandLine.Files
import SqlLowering.CommandLine.Report
import SqlLowering.CommandLine.Run
import SqlLowering.Config.Environment
import SqlLowering.Config.Settings
import SqlLowering.Config.Yaml.Basic
import SqlLowering.Config.Yaml.Glyph
import SqlLowering.Config.Yaml.Parser
import SqlLowering.Config.Yaml.Scalar
import SqlLowering.Config.Yaml.Token
import SqlLowering.DataType.Basic
import SqlLowering.DataType.Json
import SqlLowering.Decimal.Shortest
import SqlLowering.Decimal.Style
import SqlLowering.Dialect
import SqlLowering.Json.Basic
import SqlLowering.Json.Number
import SqlLowering.Json.Parser
import SqlLowering.Json.Printer
import SqlLowering.Json.Written
import SqlLowering.Lowering.Basic
import SqlLowering.Lowering.Error
import SqlLowering.Main
import SqlLowering.NameMap
import SqlLowering.Operator.Apply
import SqlLowering.Operator.Basic
import SqlLowering.Plan.Basic
import SqlLowering.Plan.Columns
import SqlLowering.Plan.HostBody
import SqlLowering.Plan.Json
import SqlLowering.Plan.Projection
import SqlLowering.Query.Basic
import SqlLowering.Query.Build
import SqlLowering.Query.Declarations
import SqlLowering.Query.Decode
import SqlLowering.Query.Depth
import SqlLowering.Query.Encode
import SqlLowering.Query.Evaluation
import SqlLowering.Query.Fingerprint
import SqlLowering.Query.Placement
import SqlLowering.Query.Text
import SqlLowering.Query.Typing
import SqlLowering.Script.Basic
import SqlLowering.Script.Expr
import SqlLowering.Script.Select
import SqlLowering.Script.TableNames
import SqlLowering.Sha256
import SqlLowering.Text.Alphanumeric
import SqlLowering.Text.Basic
import SqlLowering.Text.Digits
import SqlLowering.Text.Shown
import SqlLowering.Uuid
import SqlLowering.Value.Basic
import SqlLowering.Value.Coerce
import SqlLowering.Value.Compare
import SqlLowering.Value.Document
import SqlLowering.Value.Json
import SqlLowering.Proofs.Outcome
import SqlLowering.Proofs.HostBody
import SqlLowering.Proofs.Flattening
import SqlLowering.Proofs.ShapeReading
import SqlLowering.Proofs.DraftReading
import SqlLowering.Proofs.Layout
import SqlLowering.Proofs.Placeholders
import SqlLowering.Proofs.Spelling
import SqlLowering.Proofs.Unambiguity
import SqlLowering.Proofs.Conformance
import SqlLowering.Proofs.Conversions
import SqlLowering.Proofs.Parts
import SqlLowering.Proofs.Rendering
import SqlLowering.Proofs.ClauseForms
import SqlLowering.Proofs.LeftToHost
import SqlLowering.Proofs.BoundInputs
import SqlLowering.Proofs.HostAgreement
import SqlLowering.Proofs.Declarations
import SqlLowering.Proofs.UnknownTables
import SqlLowering.Proofs.WrittenForms
import SqlLowering.Proofs.ValueReading
import SqlLowering.Proofs.RoundTrip
import SqlLowering.Proofs.ShortestDecimal
import SqlLowering.Proofs.NumberReading
import SqlLowering.Proofs.DocumentText
import SqlLowering.Proofs.CanonicalText
import SqlLowering.Proofs.PlanScoping
import SqlLowering.Proofs.Hosting
import SqlLowering.Proofs.Indentation
import SqlLowering.Proofs.RenamedLowering
import SqlLowering.Proofs.HoistedOperands
import SqlLowering.Proofs.ChainedComparisons
import SqlLowering.Proofs.QuotedText
import SqlLowering.Proofs.Dashes
import SqlLowering.Proofs.Comments
import SqlLowering.Proofs.RecordComparisons
import SqlLowering.Proofs.ColumnNames
import SqlLowering.Proofs.NumberedColumns
import SqlLowering.Proofs.JoinTrees
import SqlLowering.Proofs.IntegerArithmetic
import SqlLowering.Proofs.TypedDecoding
import SqlLowering.Proofs.ValueOrder
import SqlLowering.Proofs.Quoting
import SqlLowering.Proofs.Renderability
import SqlLowering.Proofs.GroupingKeys
import SqlLowering.Proofs.PlainRows
import SqlLowering.Proofs.Derivations
import SqlLowering.Proofs.Blocks
import SqlLowering.Proofs.Visits
import SqlLowering.Proofs.OutermostSelect
