import DocOutline.CommandLine.Arguments
import DocOutline.Docstring
import DocOutline.Document
import DocOutline.Entry
import DocOutline.Error
import DocOutline.FileRef
import DocOutline.FileSystem.Access
import DocOutline.FileSystem.Basic
import DocOutline.FileSystem.Listing
import DocOutline.Glob
import DocOutline.Literal
import DocOutline.LogFilter
import DocOutline.Main
import DocOutline.Markup.Anchor
import DocOutline.Markup.Entry
import DocOutline.Markup.Escape
import DocOutline.Markup.Step
import DocOutline.Note
import DocOutline.Outline
import DocOutline.Outline.Links
import DocOutline.Package.Finder
import DocOutline.Package.Reader
import DocOutline.Path
import DocOutline.Proofs.Docstring
import DocOutline.Proofs.Document.Contents
import DocOutline.Proofs.Document.Frozen
import DocOutline.Proofs.Document.Objects
import DocOutline.Proofs.Document.Paths
import DocOutline.Proofs.FileSystem.Growing
import DocOutline.Proofs.FileSystem.Listing
import DocOutline.Proofs.FileSystem.Lookup
import DocOutline.Proofs.FileSystem.Spelling
import DocOutline.Proofs.FileSystem.Writing
import DocOutline.Proofs.Literal
import DocOutline.Proofs.Markup.Anchor
import DocOutline.Proofs.Markup.Escape
import DocOutline.Proofs.Markup.Preformatted
import DocOutline.Proofs.Markup.Quoted
import DocOutline.Proofs.Markup.Spans
import DocOutline.Proofs.Note
import DocOutline.Proofs.Outline.Comments
import DocOutline.Proofs.Outline.Levels
import DocOutline.Proofs.Outline.Links
import DocOutline.Proofs.Outline.Nesting
import DocOutline.Proofs.Outline.Options
import DocOutline.Proofs.Outline.Scopes
import DocOutline.Proofs.Outline.Walk
import DocOutline.Proofs.Package.Candidates
import DocOutline.Proofs.Package.Files
import DocOutline.Proofs.Package.Gathering
import DocOutline.Proofs.Package.Reading
import DocOutline.Proofs.Package.Roots
import DocOutline.Proofs.Path
import DocOutline.Proofs.Reading
import DocOutline.Proofs.Run.Errors
import DocOutline.Proofs.Run.Files
import DocOutline.Proofs.Settings.Overwriting
import DocOutline.Proofs.Signature.Comments
import DocOutline.Proofs.Signature.HeaderComments
import DocOutline.Proofs.Signature.HeaderRoundTrip
import DocOutline.Proofs.Signature.Hollow
import DocOutline.Proofs.Signature.Rendering
import DocOutline.Proofs.Signature.RoundTrip
import DocOutline.Proofs.Signature.Slots
import DocOutline.Proofs.Signature.Warnings
import DocOutline.Proofs.Syntax.Comments
import DocOutline.Proofs.Syntax.File
import DocOutline.Proofs.Syntax.Header
import DocOutline.Proofs.Syntax.Numbered
import DocOutline.Proofs.Syntax.Shape
import DocOutline.Proofs.Syntax.Tidy
import DocOutline.Proofs.Text
import DocOutline.Proofs.Text.Cleaned
import DocOutline.Proofs.Text.Dedent
import DocOutline.Proofs.Text.Lines
import DocOutline.Proofs.Text.LowerCase
import DocOutline.Proofs.Text.Margin
import DocOutline.Proofs.Text.Newline
import DocOutline.Proofs.Text.Span
import DocOutline.Reading
import DocOutline.Run
import DocOutline.Settings.Basic
import DocOutline.Settings.Load
import DocOutline.Signature.Form
import DocOutline.Signature.Header
import DocOutline.Signature.Render
import DocOutline.Syntax.Expression
import DocOutline.Syntax.Kind
import DocOutline.Syntax.Numbered
import DocOutline.Syntax.Parse
import DocOutline.Syntax.Statement
import DocOutline.Syntax.Token
import DocOutline.Syntax.Tree
import DocOutline.Text.Basic
import DocOutline.Text.Cased
import DocOutline.Text.Identifier
import DocOutline.Text.Letter
import DocOutline.Text.LowerCase
import DocOutline.Text.Margin
import DocOutline.Text.Newline
import DocOutline.Text.Order
import DocOutline.Text.Ranges
import DocOutline.Text.Space
import DocOutline.Text.Span
import DocOutline.Text.Word
import DocOutline.Toml.Document
import DocOutline.Toml.Quoted
import DocOutline.Toml.Scalar
import DocOutline.Toml.Value
