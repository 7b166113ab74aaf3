import DocCoverage.Charset.Basic
import DocCoverage.Charset.CodePages
import DocCoverage.Charset.Conversion
import DocCoverage.Charset.Decode
import DocCoverage.Charset.Encoding
import DocCoverage.Charset.SingleByte
import DocCoverage.Charset.Utf16
import DocCoverage.Charset.Utf32
import DocCoverage.Charset.Utf8
import DocCoverage.CommandLine.Options
import DocCoverage.CommandLine.Run
import DocCoverage.Entity.Attachment
import DocCoverage.Entity.Counters
import DocCoverage.Entity.Finding
import DocCoverage.Entity.Kind
import DocCoverage.Failure.Basic
import DocCoverage.Failure.Problem
import DocCoverage.Files.Change
import DocCoverage.Files.Glob
import DocCoverage.Files.Path
import DocCoverage.Files.Reading
import DocCoverage.Files.Selection
import DocCoverage.Files.Tree
import DocCoverage.Log.File
import DocCoverage.Log.Journal
import DocCoverage.Log.Record
import DocCoverage.Main
import DocCoverage.Pattern.Basic
import DocCoverage.Proofs.Entity.Attachment
import DocCoverage.Proofs.Entity.Layout
import DocCoverage.Proofs.Entity.Sentences
import DocCoverage.Proofs.Files.Chosen
import DocCoverage.Proofs.Files.Listing
import DocCoverage.Proofs.Files.Probe
import DocCoverage.Proofs.Files.Suffixes
import DocCoverage.Proofs.Files.Walk
import DocCoverage.Proofs.Pattern.Language
import DocCoverage.Proofs.Report.Agreement
import DocCoverage.Proofs.Report.Annotations
import DocCoverage.Proofs.Report.Escapes
import DocCoverage.Proofs.Run.Additive
import DocCoverage.Proofs.Run.Counted
import DocCoverage.Proofs.Run.Isolation
import DocCoverage.Proofs.Run.Noted
import DocCoverage.Proofs.Run.Progress
import DocCoverage.Proofs.Run.Reporting
import DocCoverage.Proofs.Run.Traversal
import DocCoverage.Proofs.Run.Visits
import DocCoverage.Proofs.Settings.Accepted
import DocCoverage.Proofs.Settings.Entries
import DocCoverage.Proofs.Settings.InForce
import DocCoverage.Proofs.Settings.Layers
import DocCoverage.Proofs.Settings.Loading
import DocCoverage.Proofs.Settings.Precedence
import DocCoverage.Proofs.Settings.Truth
import DocCoverage.Proofs.Survey.Braces
import DocCoverage.Proofs.Survey.ConstantNames
import DocCoverage.Proofs.Survey.Credit
import DocCoverage.Proofs.Survey.DefineCalls
import DocCoverage.Proofs.Survey.FunctionBody
import DocCoverage.Proofs.Survey.LeadingComment
import DocCoverage.Proofs.Survey.Lines
import DocCoverage.Proofs.Survey.Nesting
import DocCoverage.Proofs.Survey.OpenedBody
import DocCoverage.Proofs.Survey.Passed
import DocCoverage.Proofs.Survey.Places
import DocCoverage.Proofs.Survey.Progress
import DocCoverage.Proofs.Survey.Reached
import DocCoverage.Proofs.Survey.Steps
import DocCoverage.Proofs.Survey.Texts
import DocCoverage.Proofs.Survey.Tree
import DocCoverage.Proofs.Text.LowerCase
import DocCoverage.Proofs.Token.Cut
import DocCoverage.Proofs.Token.Delimited
import DocCoverage.Proofs.Token.Extents
import DocCoverage.Proofs.Token.Heredoc
import DocCoverage.Proofs.Token.Lossless
import DocCoverage.Proofs.Token.Regions
import DocCoverage.Proofs.Token.Rules
import DocCoverage.Proofs.Token.Shape
import DocCoverage.Proofs.Token.Unclosed
import DocCoverage.Proofs.Token.Words
import DocCoverage.Proofs.Toml.Keys
import DocCoverage.Report.Annotation
import DocCoverage.Report.Basic
import DocCoverage.Report.Drawing
import DocCoverage.Report.Format
import DocCoverage.Report.Json
import DocCoverage.Report.Layout
import DocCoverage.Report.Summary
import DocCoverage.Report.Table
import DocCoverage.Run.Checker
import DocCoverage.Run.Journal
import DocCoverage.Run.Progress
import DocCoverage.Run.Route
import DocCoverage.Run.Visit
import DocCoverage.Settings.Basic
import DocCoverage.Settings.Check
import DocCoverage.Settings.Environment
import DocCoverage.Settings.Layers
import DocCoverage.Settings.Listing
import DocCoverage.Settings.Value
import DocCoverage.Survey.Event
import DocCoverage.Survey.Pass
import DocCoverage.Survey.State
import DocCoverage.Survey.Step
import DocCoverage.Text.Blank
import DocCoverage.Text.ColumnRanges
import DocCoverage.Text.Columns
import DocCoverage.Text.Digit
import DocCoverage.Text.LowerCase
import DocCoverage.Text.Markup
import DocCoverage.Text.Markup.Action
import DocCoverage.Text.Markup.Color
import DocCoverage.Text.Markup.Style
import DocCoverage.Text.Markup.Written
import DocCoverage.Text.Pictograph
import DocCoverage.Text.PictographTable
import DocCoverage.Text.Printable
import DocCoverage.Text.Quoted
import DocCoverage.Text.Ranges
import DocCoverage.Text.Word
import DocCoverage.Token.Basic
import DocCoverage.Token.Extent
import DocCoverage.Token.Stream
import DocCoverage.Toml.Content
import DocCoverage.Toml.Document
import DocCoverage.Toml.Quotation
import DocCoverage.Toml.Scalar
