import PgJson.Arguments.Basic
import PgJson.Arguments.Help
import PgJson.Calendar.Date
import PgJson.Calendar.TimeOfDay
import PgJson.Cell.Array
import PgJson.Cell.Error
import PgJson.Cell.Scalar
import PgJson.Column
import PgJson.Domain.Basic
import PgJson.Domain.Direction
import PgJson.Domain.Folding
import PgJson.Domain.Joining
import PgJson.Domain.Punycode
import PgJson.EnvFile.Basic
import PgJson.EnvFile.Line
import PgJson.EnvFile.Value
import PgJson.Error
import PgJson.Json.Basic
import PgJson.Json.Literal
import PgJson.Json.Parser
import PgJson.Json.Printer
import PgJson.Log.Directive
import PgJson.Log.Filter
import PgJson.Log.Format
import PgJson.Log.Journal
import PgJson.Log.Recorded
import PgJson.Log.Telemetry
import PgJson.Log.Trace
import PgJson.Main
import PgJson.Number.Binary64
import PgJson.Number.Layout
import PgJson.Number.Shortest
import PgJson.Numeric.Decimal
import PgJson.Numeric.Wire
import PgJson.Outcome
import PgJson.Parameter
import PgJson.Pattern.Basic
import PgJson.Pattern.Parser
import PgJson.Pool.Basic
import PgJson.Pool.Config
import PgJson.Pool.Execution
import PgJson.Pool.Remote
import PgJson.Pool.Scripted
import PgJson.Program
import PgJson.Proofs.Cell.Array
import PgJson.Proofs.Cell.Dimensions
import PgJson.Proofs.Column.Kind
import PgJson.Proofs.Column.Null
import PgJson.Proofs.Column.Overflow
import PgJson.Proofs.Json.Numeral
import PgJson.Proofs.Json.Quoted
import PgJson.Proofs.Json.RoundTrip
import PgJson.Proofs.Number.Binary64
import PgJson.Proofs.Numeric.Decimal
import PgJson.Proofs.Numeric.Sum
import PgJson.Proofs.Numeric.Wire
import PgJson.Proofs.Outcome
import PgJson.Proofs.Parameter.RoundTrip
import PgJson.Proofs.Pool.Basic
import PgJson.Proofs.Pool.Crash
import PgJson.Proofs.Pool.Rows
import PgJson.Proofs.Program.Stages
import PgJson.Proofs.Row.Order
import PgJson.Proofs.Service.Run
import PgJson.Proofs.Session.Run
import PgJson.Proofs.Settings.OfVariables
import PgJson.Proofs.Text.Decimal
import PgJson.Proofs.Text.Digits
import PgJson.Proofs.Text.Utf8
import PgJson.Proofs.Wire.Bytes
import PgJson.Row
import PgJson.Server.Basic
import PgJson.Server.Connection
import PgJson.Service
import PgJson.Session
import PgJson.Settings.Basic
import PgJson.Settings.OfJson
import PgJson.Settings.OfVariables
import PgJson.SqlType
import PgJson.Target
import PgJson.Text.Alphanumeric
import PgJson.Text.Blank
import PgJson.Text.Canonical
import PgJson.Text.Composite
import PgJson.Text.Digits
import PgJson.Text.Fields
import PgJson.Text.Hidden
import PgJson.Text.Mark
import PgJson.Text.Quoted
import PgJson.Text.Ranges
import PgJson.Text.Terminal
import PgJson.Text.Utf8
import PgJson.Url.Address
import PgJson.Url.Basic
import PgJson.Url.Error
import PgJson.Url.Host
import PgJson.Url.Percent
import PgJson.Variables
import PgJson.Wire.Bytes
import PgJson.Proofs.Settings.Loaders
import PgJson.Proofs.Calendar.Days
import PgJson.Proofs.Calendar.Reading
import PgJson.Proofs.Column.Calendar
import PgJson.Proofs.Service.Clients
import PgJson.Proofs.Url.Credentials
import PgJson.Proofs.Url.Percent
import PgJson.Proofs.Session.Password
import PgJson.Proofs.Number.Nearest
import PgJson.Proofs.Text.Plain
import PgJson.Proofs.Numeric.Canonical
import PgJson.Proofs.Column.Arrays
import PgJson.Proofs.Arguments.Numerals
import PgJson.Proofs.EnvFile.Lines
import PgJson.Proofs.EnvFile.Value
import PgJson.Proofs.EnvFile.Merge
import PgJson.Proofs.EnvFile.Load
import PgJson.Proofs.Settings.Checks
import PgJson.Proofs.Arguments.Values
import PgJson.Proofs.Json.Grammar
import PgJson.Proofs.Json.Complete
import PgJson.Proofs.Json.Sound
import PgJson.Proofs.Number.Rounding
import PgJson.Proofs.Json.Gathered
import PgJson.Proofs.Json.Scale
import PgJson.Proofs.Json.Accuracy
import PgJson.Proofs.Json.Threshold
import PgJson.Proofs.Arguments.Parameter
import PgJson.Proofs.Arguments.Integers
import PgJson.Proofs.Text.Numeral
import PgJson.Proofs.Text.Fields
import PgJson.Proofs.Json.Members
import PgJson.Proofs.Json.OneLine
import PgJson.Proofs.Json.Pretty
import PgJson.Proofs.Json.Ordered
import PgJson.Proofs.Row.Columns
import PgJson.Proofs.Row.Ordered
import PgJson.Proofs.Text.Order
import PgJson.Proofs.Calendar.Order
import PgJson.Proofs.Column.TimeOfDay
import PgJson.Proofs.Column.Order
import PgJson.Proofs.Program.Output
import PgJson.Proofs.Column.ArrayTypes
import PgJson.Proofs.Program.Parameters
import PgJson.Proofs.Log.Setup
import PgJson.Proofs.Settings.Forms
import PgJson.Proofs.Settings.Number
import PgJson.Proofs.Json.Layout
