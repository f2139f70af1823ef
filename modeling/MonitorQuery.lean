import MonitorQuery.Text.Alphanumeric
import MonitorQuery.Text.Blank
import MonitorQuery.Text.Extending
import MonitorQuery.Text.Extent
import MonitorQuery.Text.Fold
import MonitorQuery.Text.Hexadecimal
import MonitorQuery.Text.Numbered
import MonitorQuery.Text.Percent
import MonitorQuery.Text.Quoted
import MonitorQuery.Text.Ranges
import MonitorQuery.Text.Rest
import MonitorQuery.Text.Unprintable
import MonitorQuery.Decimal.Binary64
import MonitorQuery.Decimal.Integer
import MonitorQuery.Decimal.Shortest
import MonitorQuery.Calendar.Day
import MonitorQuery.Calendar.Timestamp
import MonitorQuery.Json.Lexeme
import MonitorQuery.Json.Member
import MonitorQuery.Json.Reader
import MonitorQuery.Json.Value
import MonitorQuery.Json.Writer
import MonitorQuery.Toml.Reader
import MonitorQuery.Toml.Scalar
import MonitorQuery.Toml.Text
import MonitorQuery.Toml.Value
import MonitorQuery.Toml.Writer
import MonitorQuery.Query.Comparator
import MonitorQuery.Query.Filter
import MonitorQuery.Query.Literal
import MonitorQuery.Query.Operator
import MonitorQuery.Query.Order
import MonitorQuery.Query.Reading
import MonitorQuery.Query.Severity
import MonitorQuery.Query.Token
import MonitorQuery.Query.Value
import MonitorQuery.Query.Vocabulary
import MonitorQuery.Server.Api
import MonitorQuery.Server.Metadata
import MonitorQuery.Server.Version
import MonitorQuery.Property.Basic
import MonitorQuery.Property.Cache
import MonitorQuery.Property.Document
import MonitorQuery.Request.Compile
import MonitorQuery.Request.Fiql
import MonitorQuery.Request.Flat
import MonitorQuery.Request.Params
import MonitorQuery.Request.Rejection
import MonitorQuery.Request.Sorting
import MonitorQuery.Settings.Basic
import MonitorQuery.Settings.Document
import MonitorQuery.Cli.Arguments
import MonitorQuery.Cli.Disk
import MonitorQuery.Cli.Failure
import MonitorQuery.Cli.Invocation
import MonitorQuery.Cli.Log.Choice
import MonitorQuery.Cli.Log.Directive
import MonitorQuery.Cli.Log.Event
import MonitorQuery.Cli.Log.Pattern
import MonitorQuery.Cli.Run
import MonitorQuery.Main
import MonitorQuery.Proofs.Computation
import MonitorQuery.Proofs.Decimal.Integers
import MonitorQuery.Proofs.Decimal.Rounding
import MonitorQuery.Proofs.Text.Component
import MonitorQuery.Proofs.Reading.Descent
import MonitorQuery.Proofs.Reading.Grammar
import MonitorQuery.Proofs.Fiql.Tree
import MonitorQuery.Proofs.Fiql.Lexing
import MonitorQuery.Proofs.Fiql.Decoder
import MonitorQuery.Proofs.Fiql.Ambiguity
import MonitorQuery.Proofs.Fiql.Meaning
import MonitorQuery.Proofs.Request.Calls
import MonitorQuery.Proofs.Flat.Calls
import MonitorQuery.Proofs.Flat.Losses
import MonitorQuery.Proofs.Cache.Entries
import MonitorQuery.Proofs.Cache.History
import MonitorQuery.Proofs.Cache.Client
import MonitorQuery.Proofs.Cache.Switching
import MonitorQuery.Proofs.Cache.Overlap
import MonitorQuery.Proofs.Request.Directions
import MonitorQuery.Proofs.Fiql.Rejections
import MonitorQuery.Proofs.Flat.Rejections
import MonitorQuery.Proofs.Reading.Attributes
import MonitorQuery.Proofs.Request.Expressible
import MonitorQuery.Proofs.Fiql.Alternatives
import MonitorQuery.Proofs.Text.Decoding
import MonitorQuery.Proofs.Request.Agreement
import MonitorQuery.Proofs.Request.Keys
import MonitorQuery.Proofs.Flat.Layout
import MonitorQuery.Proofs.Flat.NullChecks
import MonitorQuery.Proofs.Fiql.Joints
import MonitorQuery.Proofs.Toml.Strings
import MonitorQuery.Proofs.Toml.Lines
import MonitorQuery.Proofs.Settings.RoundTrip
import MonitorQuery.Proofs.Cli.Actions
import MonitorQuery.Proofs.Cli.Results
import MonitorQuery.Proofs.Cli.Saving
import MonitorQuery.Proofs.Cli.Lines
import MonitorQuery.Proofs.Json.Spelling
import MonitorQuery.Proofs.Json.Range
import MonitorQuery.Proofs.Json.Numerals
import MonitorQuery.Proofs.Json.Grammar
import MonitorQuery.Proofs.Json.Reading
import MonitorQuery.Proofs.Json.Writing
import MonitorQuery.Proofs.Property.RoundTrip
import MonitorQuery.Proofs.Text.Trimming
import MonitorQuery.Proofs.Reading.Arguments
import MonitorQuery.Proofs.Reading.Gluing
import MonitorQuery.Proofs.Reading.Matching
import MonitorQuery.Proofs.Reading.Positions
import MonitorQuery.Proofs.Reading.Resplitting
import MonitorQuery.Proofs.Query.Literals
import MonitorQuery.Proofs.Request.History
import MonitorQuery.Proofs.Request.Written
import MonitorQuery.Proofs.Request.Placeholders
import MonitorQuery.Proofs.Fiql.Influence
import MonitorQuery.Proofs.Fiql.Envelope
import MonitorQuery.Proofs.Fiql.LastSign
import MonitorQuery.Proofs.Server.Grammar
import MonitorQuery.Proofs.Server.Qualifiers
import MonitorQuery.Proofs.Calendar.Days
import MonitorQuery.Proofs.Calendar.Reading
import MonitorQuery.Proofs.Server.Capabilities
import MonitorQuery.Proofs.Calendar.Writing
import MonitorQuery.Proofs.Request.Dates
