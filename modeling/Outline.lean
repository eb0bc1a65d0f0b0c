import Outline.CommandLine.Arguments
import Outline.CommandLine.Introspect
import Outline.CommandLine.Serve
import Outline.CommandLine.Threshold
import Outline.Decl.Basic
import Outline.Decl.Json
import Outline.Decl.Listing
import Outline.Doc.Summary
import Outline.Failure
import Outline.FileSystem.Basic
import Outline.FileSystem.Change
import Outline.Filter
import Outline.Folder.Basic
import Outline.Folder.Drawing
import Outline.Folder.Json
import Outline.Folder.Snapshot
import Outline.Json.Basic
import Outline.Json.Check
import Outline.Json.Decimal
import Outline.Json.Finite
import Outline.Json.Flag
import Outline.Json.Reader
import Outline.Log
import Outline.Main
import Outline.Path.Basic
import Outline.Pattern.Basic
import Outline.Pattern.Matcher
import Outline.Pattern.Reader
import Outline.Pattern.Refusal
import Outline.Report.Basic
import Outline.Report.Build
import Outline.Report.Write
import Outline.Service.Handler
import Outline.Service.Request
import Outline.Service.Response
import Outline.Settings
import Outline.Source.Files
import Outline.Source.Head
import Outline.Source.Parser
import Outline.Source.Piece
import Outline.Source.Token
import Outline.Source.Tree
import Outline.SyntaxTree.Basic
import Outline.SyntaxTree.Declarations
import Outline.Text.Blank
import Outline.Text.Case
import Outline.Text.CharacterBlock
import Outline.Text.CharacterName
import Outline.Text.Digit
import Outline.Text.Identifier
import Outline.Text.Letter
import Outline.Text.Lowercase
import Outline.Text.Newline
import Outline.Text.Printable
import Outline.Text.Quoted
import Outline.Text.RangeTable
import Outline.Text.Utf8
import Outline.Proofs.FileSystem.Proper
import Outline.Proofs.FileSystem.Walk
import Outline.Proofs.Source.Ways
import Outline.Proofs.Folder.Reading
import Outline.Proofs.Folder.Snapshot
import Outline.Proofs.FileSystem.Links
import Outline.Proofs.Folder.Agreement
import Outline.Proofs.Report.Files
import Outline.Proofs.Report.Ignored
import Outline.Proofs.Source.Subfolder
import Outline.Proofs.Report.Entities
import Outline.Proofs.FileSystem.Change
import Outline.Proofs.FileSystem.Meets
import Outline.Proofs.FileSystem.Differ
import Outline.Proofs.Report.Writing
import Outline.Proofs.Source.Unseen
import Outline.Proofs.Folder.Unseen
import Outline.Proofs.Report.Unseen
import Outline.Proofs.Report.Reordered
import Outline.Proofs.Report.Output
import Outline.Proofs.Report.Rerun
import Outline.Proofs.Folder.Lines
import Outline.Proofs.Report.Reading
import Outline.Proofs.Text.Lines
import Outline.Proofs.Folder.Canonical
import Outline.Proofs.SyntaxTree.Places
import Outline.Proofs.SyntaxTree.Walk
import Outline.Proofs.SyntaxTree.Remarks
import Outline.Proofs.SyntaxTree.Documentation
import Outline.Proofs.Decl.Lines
import Outline.Proofs.CommandLine.Arguments
import Outline.Proofs.Service.Agreement
import Outline.Proofs.Pattern.Reads
import Outline.Proofs.Pattern.Follows
import Outline.Proofs.Filter.Refusal
import Outline.Proofs.Pattern.OpeningFlags
import Outline.Proofs.Pattern.Bracketed
import Outline.Proofs.Filter.Wrapping
import Outline.Proofs.FileSystem.Contents
import Outline.Proofs.Report.Contents
import Outline.Proofs.Source.Enumeration
import Outline.Proofs.FileSystem.Limits
import Outline.Proofs.Report.Dangling
import Outline.Proofs.Doc.Summary
import Outline.Proofs.Doc.Styles
import Outline.Proofs.Text.Utf8
import Outline.Proofs.Text.SourceText
import Outline.Proofs.SyntaxTree.Texts
import Outline.Proofs.Pattern.Names
import Outline.Proofs.Filter.Names
import Outline.Proofs.Path.Return
import Outline.Proofs.Report.Headers
import Outline.Proofs.Folder.Pruning
import Outline.Proofs.Folder.Rails
import Outline.Proofs.Pattern.CaseSwitch
import Outline.Proofs.Pattern.FoldsCase
import Outline.Proofs.Filter.Case
import Outline.Proofs.Decl.Detail
import Outline.Proofs.SyntaxTree.Parameters
import Outline.Proofs.Json.Forms
import Outline.Proofs.Report.Elsewhere
import Outline.Proofs.Decl.Annotation
import Outline.Proofs.Path.Extension
