import RuleReview.Change
import RuleReview.Change.Files
import RuleReview.Change.Source
import RuleReview.Check
import RuleReview.Citation
import RuleReview.Coercion
import RuleReview.CommandLine
import RuleReview.CommandLine.Arguments
import RuleReview.CommandLine.Check
import RuleReview.CommandLine.Init
import RuleReview.CommandLine.Nearest
import RuleReview.CommandLine.Progress
import RuleReview.CommandLine.Snapshot
import RuleReview.CommandLine.Tools
import RuleReview.Console
import RuleReview.Credentials
import RuleReview.Decimal.Binary64
import RuleReview.Decimal.Loose
import RuleReview.Decimal.Numeral
import RuleReview.Decimal.Shortest
import RuleReview.Diff.Added
import RuleReview.Diff.Basic
import RuleReview.Diff.Path
import RuleReview.Diff.Reader
import RuleReview.Diff.Restrict
import RuleReview.Diff.Slim
import RuleReview.Diff.Writer
import RuleReview.Environment
import RuleReview.Environment.File
import RuleReview.Expression.Basic
import RuleReview.Expression.Match
import RuleReview.Expression.Problem
import RuleReview.Expression.Reader
import RuleReview.Failure
import RuleReview.FileTree.Basic
import RuleReview.FileTree.Folder
import RuleReview.FileTree.Path
import RuleReview.FileTree.Real
import RuleReview.Git.Facts
import RuleReview.Git.History
import RuleReview.Git.Ref
import RuleReview.Git.Remote
import RuleReview.Git.Session
import RuleReview.Git.Worktree
import RuleReview.Glob
import RuleReview.Glob.Basic
import RuleReview.Glob.Spelled
import RuleReview.Issue
import RuleReview.Json.Basic
import RuleReview.Json.Reader
import RuleReview.Json.Shown
import RuleReview.Json.Writer
import RuleReview.Log
import RuleReview.Main
import RuleReview.Markup
import RuleReview.Markup.Argument
import RuleReview.Markup.Style
import RuleReview.Members
import RuleReview.Model
import RuleReview.Pipeline
import RuleReview.Prompt
import RuleReview.Proofs.Change.AddedFiles
import RuleReview.Proofs.Change.Build
import RuleReview.Proofs.Change.FolderFiles
import RuleReview.Proofs.Change.Shown
import RuleReview.Proofs.Check
import RuleReview.Proofs.Citation
import RuleReview.Proofs.CommandLine.Outputs
import RuleReview.Proofs.CommandLine.Upload
import RuleReview.Proofs.Decimal.Digits
import RuleReview.Proofs.Diff.Added
import RuleReview.Proofs.Diff.Changes
import RuleReview.Proofs.Diff.Escapes
import RuleReview.Proofs.Diff.Faults
import RuleReview.Proofs.Diff.Header
import RuleReview.Proofs.Diff.HeaderForm
import RuleReview.Proofs.Diff.Joining
import RuleReview.Proofs.Diff.Lossless
import RuleReview.Proofs.Diff.MarkLine
import RuleReview.Proofs.Diff.Narrowing
import RuleReview.Proofs.Diff.Openings
import RuleReview.Proofs.Diff.Outline
import RuleReview.Proofs.Diff.Placement
import RuleReview.Proofs.Diff.QuotedBytes
import RuleReview.Proofs.Diff.Quoting
import RuleReview.Proofs.Diff.Readable
import RuleReview.Proofs.Diff.Restriction
import RuleReview.Proofs.Diff.Selection
import RuleReview.Proofs.Diff.Slim
import RuleReview.Proofs.Diff.Trim
import RuleReview.Proofs.Diff.Window
import RuleReview.Proofs.Diff.Written
import RuleReview.Proofs.Distinct
import RuleReview.Proofs.Expression.Order
import RuleReview.Proofs.Expression.Pieces
import RuleReview.Proofs.Expression.Reading
import RuleReview.Proofs.FileTree.Leads
import RuleReview.Proofs.FileTree.Names
import RuleReview.Proofs.FileTree.RealPlace
import RuleReview.Proofs.FileTree.Relative
import RuleReview.Proofs.FileTree.Removal
import RuleReview.Proofs.FileTree.Straight
import RuleReview.Proofs.FileTree.Strides
import RuleReview.Proofs.FileTree.Walk
import RuleReview.Proofs.Git.Addresses
import RuleReview.Proofs.Git.Branches
import RuleReview.Proofs.Git.Calls
import RuleReview.Proofs.Git.CommitObjects
import RuleReview.Proofs.Git.Commits
import RuleReview.Proofs.Git.Inquiry
import RuleReview.Proofs.Git.OnDemand
import RuleReview.Proofs.Git.Options
import RuleReview.Proofs.Git.Patches
import RuleReview.Proofs.Git.Refs
import RuleReview.Proofs.Git.Spellings
import RuleReview.Proofs.Git.Untracked
import RuleReview.Proofs.Glob.Classes
import RuleReview.Proofs.Glob.Cutting
import RuleReview.Proofs.Glob.Select
import RuleReview.Proofs.Glob.Separators
import RuleReview.Proofs.Glob.Spelling
import RuleReview.Proofs.Json.Frames
import RuleReview.Proofs.Json.Quotes
import RuleReview.Proofs.Json.Scalars
import RuleReview.Proofs.Json.Spacing
import RuleReview.Proofs.Json.Spelling
import RuleReview.Proofs.Markup.Rendering
import RuleReview.Proofs.Prompt.Substitution
import RuleReview.Proofs.Rank
import RuleReview.Proofs.Review.CatchAll
import RuleReview.Proofs.Review.Isolation
import RuleReview.Proofs.Review.Share
import RuleReview.Proofs.Review.Tally
import RuleReview.Proofs.Review.Verdicts
import RuleReview.Proofs.Rule.Fences
import RuleReview.Proofs.Rule.Folder
import RuleReview.Proofs.Rule.Gathering
import RuleReview.Proofs.Rule.Header
import RuleReview.Proofs.Rule.HeaderExpression
import RuleReview.Proofs.Rule.Reading
import RuleReview.Proofs.Settings.Comments
import RuleReview.Proofs.Settings.Fields
import RuleReview.Proofs.Settings.Loading
import RuleReview.Proofs.Settings.Nearest
import RuleReview.Proofs.Success
import RuleReview.Proofs.Text.Boundaries
import RuleReview.Proofs.Text.Breaks
import RuleReview.Proofs.Text.Cut
import RuleReview.Proofs.Text.Lines
import RuleReview.Proofs.Text.Order
import RuleReview.Proofs.Text.Trimmed
import RuleReview.Proofs.Text.Utf8
import RuleReview.Publish
import RuleReview.Report
import RuleReview.Review
import RuleReview.Rule
import RuleReview.Rule.Folder
import RuleReview.Scope
import RuleReview.Seconds
import RuleReview.Settings
import RuleReview.Settings.Load
import RuleReview.Terminal
import RuleReview.Text.Alike
import RuleReview.Text.Basic
import RuleReview.Text.Blank
import RuleReview.Text.Case
import RuleReview.Text.Digit
import RuleReview.Text.Emoji
import RuleReview.Text.Glyph
import RuleReview.Text.Lines
import RuleReview.Text.Printable
import RuleReview.Text.Quoted
import RuleReview.Text.Symbols
import RuleReview.Text.Utf8
import RuleReview.Text.Width
import RuleReview.Text.Word
import RuleReview.Text.Wrap
import RuleReview.Verdict
import RuleReview.Yaml.Atom
import RuleReview.Yaml.Cursor
import RuleReview.Yaml.Header
import RuleReview.Yaml.Moment
import RuleReview.Yaml.Node
import RuleReview.Yaml.NumberTable
import RuleReview.Yaml.Object
import RuleReview.Yaml.Problem
import RuleReview.Yaml.Property
import RuleReview.Yaml.Scalar
import RuleReview.Yaml.Shown
import RuleReview.Yaml.Tag
import RuleReview.Yaml.Token
