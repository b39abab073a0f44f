import CaseRunner.Assertion.Check
import CaseRunner.Assertion.Comparison
import CaseRunner.Binary64
import CaseRunner.Case.Action
import CaseRunner.Case.Catalogue
import CaseRunner.Case.Config
import CaseRunner.Case.Dependency
import CaseRunner.Case.Index
import CaseRunner.Case.Skipping
import CaseRunner.Case.Step
import CaseRunner.Case.Vocabulary
import CaseRunner.Case.Writing
import CaseRunner.CommandLine.Arguments
import CaseRunner.CommandLine.Program
import CaseRunner.Crash
import CaseRunner.Decimal.Notation
import CaseRunner.Decimal.Reading
import CaseRunner.Decimal.Shortest
import CaseRunner.Document.Basic
import CaseRunner.Document.Compare
import CaseRunner.Document.Leaves
import CaseRunner.Document.Reading
import CaseRunner.Document.Text
import CaseRunner.Error
import CaseRunner.Expression.Evaluation
import CaseRunner.Expression.Grammar
import CaseRunner.Expression.Token
import CaseRunner.FileSystem
import CaseRunner.Functions.Builtin
import CaseRunner.Functions.Calendar
import CaseRunner.Functions.Registry
import CaseRunner.Functions.TimeFormat
import CaseRunner.JsonPath.Selector
import CaseRunner.Login
import CaseRunner.Lookup
import CaseRunner.Main
import CaseRunner.Placeholder.Macro
import CaseRunner.Placeholder.Substitution
import CaseRunner.Powers
import CaseRunner.Proofs.Case.Graph
import CaseRunner.Proofs.Case.Plain
import CaseRunner.Proofs.Case.Reading
import CaseRunner.Proofs.Computation
import CaseRunner.Proofs.Document.Walking
import CaseRunner.Proofs.Document.Alike
import CaseRunner.Proofs.Expression.Acceptance
import CaseRunner.Proofs.Expression.Derivation
import CaseRunner.Proofs.Expression.Writing
import CaseRunner.Proofs.Placeholder.Division
import CaseRunner.Proofs.Placeholder.Relations
import CaseRunner.Proofs.Placeholder.Taking
import CaseRunner.Proofs.Session.Course
import CaseRunner.Proofs.Session.Cycle
import CaseRunner.Proofs.Session.Ending
import CaseRunner.Proofs.Session.Faults
import CaseRunner.Proofs.Session.Nesting
import CaseRunner.Proofs.Session.Order
import CaseRunner.Proofs.Session.References
import CaseRunner.Proofs.Session.Relation
import CaseRunner.Proofs.Session.Stages
import CaseRunner.Proofs.Session.Turn
import CaseRunner.Proofs.Session.Verdict
import CaseRunner.Reply
import CaseRunner.Report.Basic
import CaseRunner.Report.Printing
import CaseRunner.Request.Basic
import CaseRunner.Request.Reading
import CaseRunner.Schema.Fault
import CaseRunner.Schema.Source
import CaseRunner.Sending.Obstacle
import CaseRunner.Sending.RawReply
import CaseRunner.Sending.Retry
import CaseRunner.Session.Basic
import CaseRunner.Session.Execution
import CaseRunner.Session.Sending
import CaseRunner.Settings
import CaseRunner.Sql.Database
import CaseRunner.Sql.ReadOnly
import CaseRunner.Text.Blank
import CaseRunner.Text.CaseTable
import CaseRunner.Text.LetterCase
import CaseRunner.Text.LetterTable
import CaseRunner.Text.Letters
import CaseRunner.Text.Quoted
import CaseRunner.Text.Range
import CaseRunner.Text.Search
import CaseRunner.Text.Utf8
import CaseRunner.Text.VisibleTable
import CaseRunner.Variables.Cache
import CaseRunner.Variables.DotEnv
import CaseRunner.Variables.Store
import CaseRunner.Yaml.Node
import CaseRunner.Yaml.Reading
import CaseRunner.Yaml.Scalar
import CaseRunner.Yaml.Writing
import CaseRunner.Proofs.Sql.Tokens
import CaseRunner.Proofs.Text.Pieces
import CaseRunner.Proofs.Sql.Guard
import CaseRunner.Proofs.FileSystem
import CaseRunner.Proofs.Text.UpperCase
import CaseRunner.Proofs.Text.Lines
import CaseRunner.Proofs.Variables.DotEnv
import CaseRunner.Proofs.Variables.Stored
import CaseRunner.Proofs.Variables.EnvFile
import CaseRunner.Proofs.Variables.GlobalFile
import CaseRunner.Proofs.Variables.Keys
import CaseRunner.Proofs.Assertion.Phases
import CaseRunner.Proofs.Session.Crashing
import CaseRunner.Proofs.Session.Siblings
import CaseRunner.Proofs.Document.Visits
import CaseRunner.Proofs.Placeholder.Again
import CaseRunner.Proofs.Session.States
import CaseRunner.Proofs.Session.Token
import CaseRunner.Proofs.Document.TextByText
import CaseRunner.Proofs.Placeholder.Remembering
import CaseRunner.Proofs.Placeholder.TextByText
import CaseRunner.Proofs.Placeholder.Round
import CaseRunner.Proofs.Placeholder.Nested
import CaseRunner.Proofs.Placeholder.Finding
import CaseRunner.Proofs.Placeholder.Parts
import CaseRunner.Proofs.Placeholder.Payloads
import CaseRunner.Proofs.Placeholder.Limit
import CaseRunner.Proofs.Document.Ordering
import CaseRunner.Proofs.Expression.Mirroring
import CaseRunner.Proofs.Binary64.Rounding
import CaseRunner.Proofs.Document.WholeNumbers
import CaseRunner.Proofs.Assertion.Comparators
import CaseRunner.Proofs.Document.Parts
import CaseRunner.Proofs.Sql.Stretches
import CaseRunner.Sending.Payload
import CaseRunner.Proofs.Request.Reading
import CaseRunner.Proofs.Request.Headers
import CaseRunner.Proofs.Request.Body
import CaseRunner.Proofs.Sending.Tries
import CaseRunner.Proofs.Case.References
import CaseRunner.Proofs.Request.Usable
import CaseRunner.Proofs.Request.Faults
import CaseRunner.Proofs.Variables.Calls
import CaseRunner.Proofs.Variables.Changing
import CaseRunner.Proofs.Text.LowerCase
import CaseRunner.Proofs.Variables.Lifetime
import CaseRunner.Proofs.Variables.Failing
import CaseRunner.Proofs.Document.Records
import CaseRunner.Proofs.Request.Spellings
import CaseRunner.Proofs.Text.Slices
import CaseRunner.Proofs.Placeholder.Searching
import CaseRunner.Proofs.Placeholder.Restarting
import CaseRunner.Proofs.Placeholder.Errors
import CaseRunner.Proofs.Case.Catalogue
import CaseRunner.Proofs.Case.Loading
import CaseRunner.Proofs.Document.Finite
import CaseRunner.Proofs.Document.Ascending
