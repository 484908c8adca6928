import MarkupTemplates.Command.Arguments
import MarkupTemplates.Command.Run
import MarkupTemplates.Compile.Assemble
import MarkupTemplates.Compile.Memo
import MarkupTemplates.Dependency.Graph
import MarkupTemplates.Dependency.Walk
import MarkupTemplates.Main
import MarkupTemplates.Markup.Attributes
import MarkupTemplates.Markup.Entity.Decode
import MarkupTemplates.Markup.Entity.Names
import MarkupTemplates.Markup.Index
import MarkupTemplates.Markup.Located
import MarkupTemplates.Markup.Nesting
import MarkupTemplates.Markup.Node
import MarkupTemplates.Markup.Piece
import MarkupTemplates.Markup.Printer
import MarkupTemplates.Markup.Tag
import MarkupTemplates.Message
import MarkupTemplates.Notice
import MarkupTemplates.Path.Basic
import MarkupTemplates.Path.Reading
import MarkupTemplates.Path.Select
import MarkupTemplates.Path.Token
import MarkupTemplates.Pattern.Basic
import MarkupTemplates.Pattern.Bracket
import MarkupTemplates.Pattern.CharSet
import MarkupTemplates.Pattern.Escape
import MarkupTemplates.Pattern.Reading
import MarkupTemplates.Pattern.Size
import MarkupTemplates.Proofs.Compile.Accounts
import MarkupTemplates.Proofs.Compile.Agreement
import MarkupTemplates.Proofs.Compile.Errors
import MarkupTemplates.Proofs.Compile.Extending
import MarkupTemplates.Proofs.Compile.Lineage
import MarkupTemplates.Proofs.Compile.Memory
import MarkupTemplates.Proofs.Compile.Minified
import MarkupTemplates.Proofs.Compile.Needed
import MarkupTemplates.Proofs.Compile.Requests
import MarkupTemplates.Proofs.Compile.Resolve
import MarkupTemplates.Proofs.Compile.Simulation
import MarkupTemplates.Proofs.Compile.Success
import MarkupTemplates.Proofs.Compile.Trees
import MarkupTemplates.Proofs.Dependency.Faults
import MarkupTemplates.Proofs.Dependency.Order
import MarkupTemplates.Proofs.Dependency.Reach
import MarkupTemplates.Proofs.Dependency.StoreGraph
import MarkupTemplates.Proofs.Dependency.Ties
import MarkupTemplates.Proofs.Dependency.Way
import MarkupTemplates.Proofs.Markup.Answered
import MarkupTemplates.Proofs.Markup.Attributes
import MarkupTemplates.Proofs.Markup.Enclosed
import MarkupTemplates.Proofs.Markup.Everywhere
import MarkupTemplates.Proofs.Markup.Gaps
import MarkupTemplates.Proofs.Markup.Marked
import MarkupTemplates.Proofs.Markup.Merging
import MarkupTemplates.Proofs.Markup.Minified
import MarkupTemplates.Proofs.Markup.Normal
import MarkupTemplates.Proofs.Markup.Places
import MarkupTemplates.Proofs.Markup.Reading
import MarkupTemplates.Proofs.Markup.Relocated
import MarkupTemplates.Proofs.Markup.Rereading
import MarkupTemplates.Proofs.Markup.RoundTrip
import MarkupTemplates.Proofs.Markup.Seams
import MarkupTemplates.Proofs.Markup.Spill
import MarkupTemplates.Proofs.Markup.Tidy
import MarkupTemplates.Proofs.Markup.Written
import MarkupTemplates.Proofs.Path.Grammar
import MarkupTemplates.Proofs.Path.Lexing
import MarkupTemplates.Proofs.Path.Printing
import MarkupTemplates.Proofs.Path.Tiling
import MarkupTemplates.Proofs.Path.Trail
import MarkupTemplates.Proofs.Report.Location
import MarkupTemplates.Proofs.Session.Batches
import MarkupTemplates.Proofs.Session.Contributors
import MarkupTemplates.Proofs.Session.Coverage
import MarkupTemplates.Proofs.Session.Failures
import MarkupTemplates.Proofs.Session.IncludeFree
import MarkupTemplates.Proofs.Session.Isolation
import MarkupTemplates.Proofs.Session.LoadOrder
import MarkupTemplates.Proofs.Session.Messages
import MarkupTemplates.Proofs.Session.MinifiedMessages
import MarkupTemplates.Proofs.Session.Minifying
import MarkupTemplates.Proofs.Session.Modes
import MarkupTemplates.Proofs.Session.Periods
import MarkupTemplates.Proofs.Session.Rerendering
import MarkupTemplates.Proofs.Session.Runs
import MarkupTemplates.Proofs.Session.Termination
import MarkupTemplates.Proofs.Session.Transparency
import MarkupTemplates.Proofs.Store.Log
import MarkupTemplates.Proofs.Store.Minified
import MarkupTemplates.Proofs.Store.Registered
import MarkupTemplates.Proofs.Template.Applying
import MarkupTemplates.Proofs.Template.AttributePayloads
import MarkupTemplates.Proofs.Template.Bundles
import MarkupTemplates.Proofs.Template.Editing
import MarkupTemplates.Proofs.Template.Expansion
import MarkupTemplates.Proofs.Template.Includes
import MarkupTemplates.Proofs.Template.Loading
import MarkupTemplates.Proofs.Template.Minified
import MarkupTemplates.Proofs.Template.MinifiedEdit
import MarkupTemplates.Proofs.Template.Places
import MarkupTemplates.Proofs.Template.Relocated
import MarkupTemplates.Proofs.Template.Rewriting
import MarkupTemplates.Proofs.Template.RoundTrip
import MarkupTemplates.Proofs.Template.StrayClosing
import MarkupTemplates.Proofs.Template.Substitution
import MarkupTemplates.Proofs.Template.WellFormed
import MarkupTemplates.Proofs.Text.Slices
import MarkupTemplates.Proofs.Text.Trimmed
import MarkupTemplates.Proofs.Tracks
import MarkupTemplates.Proofs.Yields
import MarkupTemplates.Report.Basic
import MarkupTemplates.Session.Basic
import MarkupTemplates.Session.Load
import MarkupTemplates.Settings
import MarkupTemplates.Store.Basic
import MarkupTemplates.Template.Basic
import MarkupTemplates.Template.Declaration
import MarkupTemplates.Template.Edit
import MarkupTemplates.Template.Include
import MarkupTemplates.Template.ResolutionError
import MarkupTemplates.Template.SourceError
import MarkupTemplates.Text.Age
import MarkupTemplates.Text.BinaryProperty
import MarkupTemplates.Text.Blank
import MarkupTemplates.Text.Boundary
import MarkupTemplates.Text.CaseFolding
import MarkupTemplates.Text.GeneralCategory
import MarkupTemplates.Text.Integer
import MarkupTemplates.Text.Lines
import MarkupTemplates.Text.Property
import MarkupTemplates.Text.Ranges
import MarkupTemplates.Text.Script
import MarkupTemplates.Text.Span
import MarkupTemplates.Text.Width
import MarkupTemplates.Text.WordChars
import MarkupTemplates.Toml.Basic
import MarkupTemplates.Toml.Reading
import MarkupTemplates.Toml.Scalar
