import Excerpt.CommandLine.Arguments
import Excerpt.CommandLine.Help
import Excerpt.CommandLine.Run
import Excerpt.Config
import Excerpt.ConfigFile
import Excerpt.Diagnostic
import Excerpt.DocumentId
import Excerpt.Error
import Excerpt.FileFilter
import Excerpt.FileTree
import Excerpt.FileView
import Excerpt.Frame
import Excerpt.Json.Numeral
import Excerpt.Json.Printer
import Excerpt.Json.Quoted
import Excerpt.Json.Reader
import Excerpt.LineCounter
import Excerpt.LineMap
import Excerpt.Main
import Excerpt.MapStore
import Excerpt.Number.Binary64
import Excerpt.Number.Shortest
import Excerpt.Path
import Excerpt.Pattern.CharClass
import Excerpt.Pattern.Cursor
import Excerpt.Pattern.Expr
import Excerpt.Pattern.Matching
import Excerpt.Pattern.Node
import Excerpt.Pattern.Reader
import Excerpt.Processor
import Excerpt.Proofs.Extraction.Columns
import Excerpt.Proofs.Extraction.Content
import Excerpt.Proofs.Extraction.Shape
import Excerpt.Proofs.Extraction.Tracing
import Excerpt.Proofs.Frame
import Excerpt.Proofs.LineCounter
import Excerpt.Proofs.Pattern.Cursor
import Excerpt.Proofs.Pattern.Search
import Excerpt.Proofs.Pattern.Ways
import Excerpt.Proofs.Region.DefaultTags
import Excerpt.Proofs.Region.Placement
import Excerpt.Proofs.Reindent
import Excerpt.Proofs.Text.Ink
import Excerpt.Proofs.Text.Lines
import Excerpt.Region
import Excerpt.Reindent
import Excerpt.Report
import Excerpt.TagPatterns
import Excerpt.Text.Basic
import Excerpt.Text.Blank
import Excerpt.Text.CaseFold
import Excerpt.Text.CharRange
import Excerpt.Text.DecimalDigit
import Excerpt.Text.Letter
import Excerpt.Text.WordChar
import Excerpt.Toml.DateTime
import Excerpt.Toml.Numeral
import Excerpt.Toml.Quoted
import Excerpt.Toml.Reader
import Excerpt.Toml.Table
import Excerpt.Value
import Excerpt.Workspace
import Excerpt.Proofs.Processor.History
import Excerpt.Proofs.Pattern.Walk
import Excerpt.Proofs.Region.StyleTags
import Excerpt.Proofs.Region.StyleScan
import Excerpt.Proofs.Extraction.Concatenation
import Excerpt.Proofs.Json.Tokens
import Excerpt.Proofs.Value.Members
import Excerpt.Proofs.Json.ReadBack
import Excerpt.Proofs.Diagnostic.RoundTrip
import Excerpt.Proofs.Value.Objects
import Excerpt.Proofs.Diagnostic.PassThrough
import Excerpt.Proofs.Workspace.Commands
import Excerpt.Proofs.Workspace.Selection
import Excerpt.Proofs.FileTree
import Excerpt.Proofs.Except
import Excerpt.Proofs.CommandLine.AllOrNothing
import Excerpt.Proofs.Region.Searches
import Excerpt.Proofs.Region.PlainScan
import Excerpt.Proofs.Pattern.Names
import Excerpt.Proofs.Region.TagGroups
import Excerpt.Proofs.Extraction.Sizes
import Excerpt.Proofs.Workspace.PrintedMap
import Excerpt.Proofs.Reindent.CommonIndent
import Excerpt.Proofs.Reindent.Shifting
import Excerpt.Proofs.Processor.Remapping
import Excerpt.Proofs.Diagnostic.Acceptance
import Excerpt.Proofs.FirstOccurrences
import Excerpt.Proofs.Config.Merging
import Excerpt.Proofs.Config.Decoding
import Excerpt.Proofs.Config.Lookup
import Excerpt.Proofs.FileSuffix
import Excerpt.Proofs.Extraction.Framing
