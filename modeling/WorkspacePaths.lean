import WorkspacePaths.Command.Answer
import WorkspacePaths.Command.CommandLine
import WorkspacePaths.Command.Context
import WorkspacePaths.Command.Dispatch
import WorkspacePaths.Command.Numeral
import WorkspacePaths.Command.Override
import WorkspacePaths.Command.Request
import WorkspacePaths.Config.Basic
import WorkspacePaths.Config.Failure
import WorkspacePaths.Config.Loader
import WorkspacePaths.Config.Shape
import WorkspacePaths.Document.Json.Printer
import WorkspacePaths.Document.Json.Reader
import WorkspacePaths.Document.Json.Token
import WorkspacePaths.Document.Toml.Cursor
import WorkspacePaths.Document.Toml.Fault
import WorkspacePaths.Document.Toml.Namespace
import WorkspacePaths.Document.Toml.Reader
import WorkspacePaths.Document.Toml.Scalar
import WorkspacePaths.Document.Value
import WorkspacePaths.Entry.Anchor
import WorkspacePaths.Entry.Expansion
import WorkspacePaths.Entry.Resolution
import WorkspacePaths.Entry.Scan
import WorkspacePaths.Environment
import WorkspacePaths.Host.Basic
import WorkspacePaths.Host.Tables
import WorkspacePaths.Host.WorkspaceRoot
import WorkspacePaths.Logged
import WorkspacePaths.Main
import WorkspacePaths.Path.Drive
import WorkspacePaths.Path.Flavour
import WorkspacePaths.Path.Join
import WorkspacePaths.Path.Normal
import WorkspacePaths.Path.Walk
import WorkspacePaths.Session
import WorkspacePaths.Text.Basic
import WorkspacePaths.Text.CodePoint
import WorkspacePaths.Text.LowerCase
import WorkspacePaths.Text.Printable
import WorkspacePaths.Text.Quoted
import WorkspacePaths.Text.Ranges
import WorkspacePaths.Text.Utf8
import WorkspacePaths.Text.Word
import WorkspacePaths.Proofs.Path.Fold
import WorkspacePaths.Proofs.Path.Posix
import WorkspacePaths.Proofs.Path.Walk
import WorkspacePaths.Proofs.Entry.Scan
import WorkspacePaths.Proofs.Entry.Table
import WorkspacePaths.Proofs.Entry.Anchor
import WorkspacePaths.Proofs.Entry.Outcome
import WorkspacePaths.Proofs.Entry.Spelling
import WorkspacePaths.Proofs.Host.Roots
import WorkspacePaths.Proofs.Text.Utf8
import WorkspacePaths.Proofs.Entry.Mentions
import WorkspacePaths.Proofs.Document.QuotedText
import WorkspacePaths.Proofs.Document.RoundTrip
import WorkspacePaths.Proofs.Host.Variables
import WorkspacePaths.Proofs.Command.Words
import WorkspacePaths.Proofs.Config.Loading
import WorkspacePaths.Proofs.Command.Success
import WorkspacePaths.Proofs.Command.Agreement
import WorkspacePaths.Proofs.Entry.Lookups
import WorkspacePaths.Proofs.Config.Processing
import WorkspacePaths.Proofs.Command.Restoring
import WorkspacePaths.Proofs.Config.Outcome
import WorkspacePaths.Proofs.Path.Drive
import WorkspacePaths.Proofs.Path.Windows
import WorkspacePaths.Proofs.Path.Rereading
import WorkspacePaths.Proofs.Entry.Relative
import WorkspacePaths.Proofs.Command.Resolving
import WorkspacePaths.Proofs.Entry.Absolute
import WorkspacePaths.Proofs.Session.Steps
import WorkspacePaths.Proofs.Session.Active
import WorkspacePaths.Proofs.Host.Files
import WorkspacePaths.Proofs.Config.Reading
import WorkspacePaths.Proofs.Session.Precedence
import WorkspacePaths.Proofs.Session.Fresh
import WorkspacePaths.Proofs.Path.Separators
import WorkspacePaths.Proofs.Path.Driveless
import WorkspacePaths.Proofs.Path.Respelling
import WorkspacePaths.Proofs.Entry.Independence
import WorkspacePaths.Proofs.Path.Joining
import WorkspacePaths.Proofs.Path.Components
import WorkspacePaths.Proofs.Entry.Containment
import WorkspacePaths.Proofs.Entry.Tokens
import WorkspacePaths.Proofs.Entry.Replacement
import WorkspacePaths.Proofs.Entry.Dollars
import WorkspacePaths.Proofs.Config.Reprocessing
import WorkspacePaths.Proofs.Command.Segments
import WorkspacePaths.Proofs.Command.Handing
import WorkspacePaths.Proofs.Entry.Folder
import WorkspacePaths.Proofs.Config.Settings
import WorkspacePaths.Proofs.Config.Acceptance

/-!
# Workspace path settings
-/
