import ComplianceHistory.Text.Classes
import ComplianceHistory.Text.Quoted
import ComplianceHistory.Text.Case
import ComplianceHistory.Entries
import ComplianceHistory.Decimal.Binary
import ComplianceHistory.Decimal.Shortest
import ComplianceHistory.Decimal.FloatText
import ComplianceHistory.Value
import ComplianceHistory.Decimal.Numeral
import ComplianceHistory.Json.Reader
import ComplianceHistory.Json.Writer
import ComplianceHistory.Json.Halves
import ComplianceHistory.Time.Calendar
import ComplianceHistory.Time.Duration
import ComplianceHistory.Time.Instant
import ComplianceHistory.Time.Iso
import ComplianceHistory.Time.Timestamp
import ComplianceHistory.Filter.Basic
import ComplianceHistory.Filter.Document
import ComplianceHistory.Filter.Expression
import ComplianceHistory.Filter.Meaning
import ComplianceHistory.Filter.Compiled
import ComplianceHistory.Record
import ComplianceHistory.DocumentQuery
import ComplianceHistory.Sql.Clause
import ComplianceHistory.Sql.Truth
import ComplianceHistory.Store.Memory
import ComplianceHistory.Store.Relational
import ComplianceHistory.Sql.Reader
import ComplianceHistory.Report.Bucket
import ComplianceHistory.Report.Gaps
import ComplianceHistory.Report.History
import ComplianceHistory.Settings
import ComplianceHistory.SavedFilters
import ComplianceHistory.Service
import ComplianceHistory.Yaml.Cursor
import ComplianceHistory.Yaml.Scalar
import ComplianceHistory.Yaml.Token
import ComplianceHistory.Yaml.Kind
import ComplianceHistory.Yaml.Node
import ComplianceHistory.Yaml.Value
import ComplianceHistory.Files
import ComplianceHistory.RecordFile
import ComplianceHistory.SettingsFile
import ComplianceHistory.Command.Arguments
import ComplianceHistory.Command.Failure
import ComplianceHistory.Command.Job
import ComplianceHistory.Text.Octets
import ComplianceHistory.Web.Form
import ComplianceHistory.Web.Path
import ComplianceHistory.Web.Route
import ComplianceHistory.Web.Api
import ComplianceHistory.Main
import ComplianceHistory.Proofs.Filter.Operators
import ComplianceHistory.Proofs.Filter.Compilation
import ComplianceHistory.Proofs.Store.Documents
import ComplianceHistory.Proofs.Store.Queries
import ComplianceHistory.Proofs.Time.Calendar
import ComplianceHistory.Proofs.Time.RoundTrip
import ComplianceHistory.Proofs.Time.Limits
import ComplianceHistory.Proofs.Time.Offsets
import ComplianceHistory.Proofs.Store.Tables
import ComplianceHistory.Proofs.Store.Answers
import ComplianceHistory.Proofs.Store.Parity
import ComplianceHistory.Proofs.Store.Expressions
import ComplianceHistory.Proofs.Report.Grid
import ComplianceHistory.Proofs.Report.Buckets
import ComplianceHistory.Proofs.Report.Gaps
import ComplianceHistory.Proofs.Report.Ranges
import ComplianceHistory.Proofs.Report.Filling
import ComplianceHistory.Proofs.Report.Representatives
import ComplianceHistory.Proofs.Report.Histories
import ComplianceHistory.Proofs.Sql.Words
import ComplianceHistory.Proofs.Sql.Reading
import ComplianceHistory.Proofs.Sql.Filters
import ComplianceHistory.Proofs.Report.Histograms
import ComplianceHistory.Proofs.Report.Latest
import ComplianceHistory.Proofs.Settings
import ComplianceHistory.Proofs.Service
import ComplianceHistory.Proofs.Report.Streams
import ComplianceHistory.Proofs.Report.Additions
import ComplianceHistory.Proofs.Report.Rearrangements
import ComplianceHistory.Proofs.Store.Contents
import ComplianceHistory.Proofs.Service.Streams
import ComplianceHistory.Proofs.Service.Anchors
import ComplianceHistory.Proofs.Filter.Grammar
import ComplianceHistory.Proofs.Filter.Scanning
import ComplianceHistory.Proofs.Filter.Expressions
import ComplianceHistory.Proofs.Filter.Spelling
import ComplianceHistory.Proofs.Filter.Keywords
import ComplianceHistory.Proofs.Filter.Relocation
import ComplianceHistory.Proofs.Filter.Spacing
import ComplianceHistory.Proofs.Filter.Documents
import ComplianceHistory.Proofs.Filter.Unsupported
import ComplianceHistory.Proofs.Json.Scalars
import ComplianceHistory.Proofs.Json.Strings
import ComplianceHistory.Proofs.Json.RoundTrip
import ComplianceHistory.Proofs.Json.Reading
import ComplianceHistory.Proofs.SavedFilters.File
import ComplianceHistory.Proofs.SavedFilters.Failures
import ComplianceHistory.Proofs.SavedFilters.Listing
import ComplianceHistory.Proofs.SavedFilters.Refinement
import ComplianceHistory.Proofs.Web.Failures
import ComplianceHistory.Proofs.Store.Batches
import ComplianceHistory.Proofs.Store.Transactions
import ComplianceHistory.Proofs.Web.Bodies
import ComplianceHistory.Proofs.Web.Turns
import ComplianceHistory.Proofs.Web.Shelf
import ComplianceHistory.Proofs.Web.SavedReports
import ComplianceHistory.Proofs.RecordFile
import ComplianceHistory.Proofs.RecordFile.Refusals
import ComplianceHistory.Proofs.RecordFile.Lines
import ComplianceHistory.Proofs.Command.Jobs
import ComplianceHistory.Proofs.Command.Reports
import ComplianceHistory.Proofs.Command.Options
import ComplianceHistory.Proofs.Sql.Shapes
import ComplianceHistory.Proofs.FrontEnds
