import PageCheck.Check.Edit
import PageCheck.Check.Report
import PageCheck.Check.Result
import PageCheck.Check.Run
import PageCheck.Cli.Command
import PageCheck.Cli.Options
import PageCheck.Cli.Reader
import PageCheck.Cli.Run
import PageCheck.Cli.Terminal
import PageCheck.Cli.Usage
import PageCheck.Config
import PageCheck.Config.Field
import PageCheck.Config.Load
import PageCheck.Engine
import PageCheck.Fetch
import PageCheck.Fetch.Response
import PageCheck.Fetch.Session
import PageCheck.Files.Path
import PageCheck.Files.Store
import PageCheck.Html.Document
import PageCheck.Html.Document.Build
import PageCheck.Html.Entity
import PageCheck.Html.Entity.Table
import PageCheck.Html.Fault
import PageCheck.Html.Place
import PageCheck.Html.Token
import PageCheck.Html.Token.Scan
import PageCheck.Html.Token.Tag
import PageCheck.Json.Error
import PageCheck.Json.Reader
import PageCheck.Json.Writer
import PageCheck.Log.Format
import PageCheck.Log.Logger
import PageCheck.Log.Pattern
import PageCheck.Log.Record
import PageCheck.Log.Session
import PageCheck.Log.Stamp
import PageCheck.Main
import PageCheck.Number.Binary64
import PageCheck.Number.Calendar
import PageCheck.Number.Layout
import PageCheck.Number.Literal
import PageCheck.Number.Rounded
import PageCheck.Number.Shortest
import PageCheck.Predicate.Basic
import PageCheck.Predicate.Call
import PageCheck.Predicate.Error
import PageCheck.Predicate.Evaluation
import PageCheck.Predicate.Outline
import PageCheck.Predicate.Reader
import PageCheck.Proofs.Check.Boundary
import PageCheck.Proofs.Check.Edit
import PageCheck.Proofs.Check.Ending
import PageCheck.Proofs.Check.Escape
import PageCheck.Proofs.Check.Outcome
import PageCheck.Proofs.Check.Report
import PageCheck.Proofs.Cli.Action
import PageCheck.Proofs.Cli.Check
import PageCheck.Proofs.Cli.Finding
import PageCheck.Proofs.Cli.Start
import PageCheck.Proofs.Cli.Validate
import PageCheck.Proofs.Config.Build
import PageCheck.Proofs.Config.Reload
import PageCheck.Proofs.Config.TopLevel
import PageCheck.Proofs.Fetch.Outcome
import PageCheck.Proofs.Files.Path
import PageCheck.Proofs.Files.Store
import PageCheck.Proofs.Html.Enclosed
import PageCheck.Proofs.Html.Part
import PageCheck.Proofs.Html.Reference
import PageCheck.Proofs.Html.Refusal
import PageCheck.Proofs.Html.Scan
import PageCheck.Proofs.Html.Tags
import PageCheck.Proofs.Json.Controls
import PageCheck.Proofs.Json.Number
import PageCheck.Proofs.Json.Real
import PageCheck.Proofs.Json.RoundTrip
import PageCheck.Proofs.Json.Text
import PageCheck.Proofs.Log.Logger
import PageCheck.Proofs.Log.Session
import PageCheck.Proofs.Predicate.Arguments
import PageCheck.Proofs.Predicate.Blame
import PageCheck.Proofs.Predicate.Call
import PageCheck.Proofs.Predicate.Expressible
import PageCheck.Proofs.Predicate.Expression
import PageCheck.Proofs.Predicate.Literals
import PageCheck.Proofs.Predicate.Misplaced
import PageCheck.Proofs.Predicate.Negation
import PageCheck.Proofs.Predicate.Nesting
import PageCheck.Proofs.Predicate.Origin
import PageCheck.Proofs.Predicate.Reading
import PageCheck.Proofs.Predicate.RoundTrip
import PageCheck.Proofs.Predicate.Selecting
import PageCheck.Proofs.Predicate.Spacing
import PageCheck.Proofs.Predicate.Spelling
import PageCheck.Proofs.Report.Escape
import PageCheck.Proofs.Report.Json
import PageCheck.Proofs.Report.Markup
import PageCheck.Proofs.Report.Page
import PageCheck.Proofs.Report.Save
import PageCheck.Proofs.Selector.Escape
import PageCheck.Proofs.Selector.Run
import PageCheck.Proofs.Selector.Suffix
import PageCheck.Proofs.Selector.Written
import PageCheck.Proofs.SpecFile.Configured
import PageCheck.Proofs.SpecFile.Expressible
import PageCheck.Proofs.SpecFile.Isolation
import PageCheck.Proofs.SpecFile.Load
import PageCheck.Proofs.SpecFile.Numbers
import PageCheck.Proofs.SpecFile.RoundTrip
import PageCheck.Proofs.Text.Decimal
import PageCheck.Proofs.Text.Lines
import PageCheck.Proofs.Text.Run
import PageCheck.Proofs.Text.Split
import PageCheck.Proofs.Text.Strip
import PageCheck.Proofs.Text.Utf8
import PageCheck.Report.Escape
import PageCheck.Report.Page
import PageCheck.Report.Save
import PageCheck.Report.Template
import PageCheck.Report.Template.Reader
import PageCheck.Selector.Basic
import PageCheck.Selector.Error
import PageCheck.Selector.Language
import PageCheck.Selector.Matching
import PageCheck.Selector.Page
import PageCheck.Selector.Range
import PageCheck.Selector.Reader
import PageCheck.Selector.State
import PageCheck.Selector.Token
import PageCheck.Selector.Value
import PageCheck.Selector.Writing
import PageCheck.SpecFile
import PageCheck.SpecFile.Load
import PageCheck.Text.Base64
import PageCheck.Text.Behind
import PageCheck.Text.Blank
import PageCheck.Text.Case
import PageCheck.Text.Charset
import PageCheck.Text.Control
import PageCheck.Text.Digit
import PageCheck.Text.Direction
import PageCheck.Text.Lines
import PageCheck.Text.Printable
import PageCheck.Text.Quoted
import PageCheck.Text.Ranges
import PageCheck.Text.Similar
import PageCheck.Text.Split
import PageCheck.Text.Utf8
import PageCheck.Url
import PageCheck.Value
import PageCheck.Value.Outline
import PageCheck.Yaml.Fault
import PageCheck.Yaml.Node
import PageCheck.Yaml.Reader
import PageCheck.Yaml.Scalar
import PageCheck.Yaml.Token
import PageCheck.Yaml.Token.Scalar
import PageCheck.Yaml.Token.Scan
