import PageStudio.Command.Arguments
import PageStudio.Command.Plan
import PageStudio.Command.Request
import PageStudio.Css.Base
import PageStudio.Css.Declarations
import PageStudio.Css.Layout
import PageStudio.Css.Sheet
import PageStudio.Decimal.Binary
import PageStudio.Decimal.Places
import PageStudio.Decimal.Reading
import PageStudio.Decimal.Shortest
import PageStudio.Dict
import PageStudio.Document.Basic
import PageStudio.Document.Form
import PageStudio.Document.Page
import PageStudio.Document.Settings
import PageStudio.Editor.Generated
import PageStudio.Editor.History
import PageStudio.Editor.Mutation
import PageStudio.Editor.MutationForm
import PageStudio.Editor.Session
import PageStudio.Html.Escape
import PageStudio.Html.Icon
import PageStudio.Html.Markup
import PageStudio.Html.NodeMarkup
import PageStudio.Html.Script
import PageStudio.Json.Printer
import PageStudio.Json.Reading
import PageStudio.Json.Source
import PageStudio.Json.Token
import PageStudio.Json.Value
import PageStudio.Main
import PageStudio.Node.Content
import PageStudio.Node.Copy
import PageStudio.Node.Forest
import PageStudio.Node.Form
import PageStudio.Node.IdSource
import PageStudio.Node.Kind
import PageStudio.Node.Link
import PageStudio.Node.Palette
import PageStudio.Node.Patch
import PageStudio.Node.Tree
import PageStudio.Project.Basic
import PageStudio.Project.Folder
import PageStudio.Project.Path
import PageStudio.Project.Starter
import PageStudio.Proofs.Css.BaseSheet
import PageStudio.Proofs.Css.Cascade
import PageStudio.Proofs.Css.Contained
import PageStudio.Proofs.Css.Continuation
import PageStudio.Proofs.Css.Declarations
import PageStudio.Proofs.Css.Identifier
import PageStudio.Proofs.Css.Lengths
import PageStudio.Proofs.Css.NodeItems
import PageStudio.Proofs.Css.Reader
import PageStudio.Proofs.Css.Selector
import PageStudio.Proofs.Css.Statements
import PageStudio.Proofs.Css.StyleEnd
import PageStudio.Proofs.Css.Token
import PageStudio.Proofs.Css.Trimming
import PageStudio.Proofs.Css.Values
import PageStudio.Proofs.Decimal.Whole
import PageStudio.Proofs.Dict
import PageStudio.Proofs.Document.Draft
import PageStudio.Proofs.Document.Form
import PageStudio.Proofs.Document.NodeIds
import PageStudio.Proofs.Document.Numeric
import PageStudio.Proofs.Document.Validity
import PageStudio.Proofs.Document.Writable
import PageStudio.Proofs.Editor.Commuting
import PageStudio.Proofs.Editor.DuplicatePlace
import PageStudio.Proofs.Editor.Duplication
import PageStudio.Proofs.Editor.Fences
import PageStudio.Proofs.Editor.Frame
import PageStudio.Proofs.Editor.Freshness
import PageStudio.Proofs.Editor.GeneratedNodes
import PageStudio.Proofs.Editor.History
import PageStudio.Proofs.Editor.Mutation
import PageStudio.Proofs.Editor.MutationForm
import PageStudio.Proofs.Editor.NewNode
import PageStudio.Proofs.Editor.NewPage
import PageStudio.Proofs.Editor.NodeEdits
import PageStudio.Proofs.Editor.Operation
import PageStudio.Proofs.Editor.PageNames
import PageStudio.Proofs.Editor.Refusal
import PageStudio.Proofs.Editor.Rejection
import PageStudio.Proofs.Editor.Selection
import PageStudio.Proofs.Editor.Settling
import PageStudio.Proofs.Editor.Timeline
import PageStudio.Proofs.Editor.Validity
import PageStudio.Proofs.Editor.Writable
import PageStudio.Proofs.Html.AttributeNames
import PageStudio.Proofs.Html.Escape
import PageStudio.Proofs.Html.Ids
import PageStudio.Proofs.Html.LinkModes
import PageStudio.Proofs.Html.Links
import PageStudio.Proofs.Html.Marks
import PageStudio.Proofs.Html.Markup
import PageStudio.Proofs.Html.NodeMarkup
import PageStudio.Proofs.Html.Reader
import PageStudio.Proofs.Html.Writer
import PageStudio.Proofs.Json.Inversion
import PageStudio.Proofs.Json.Object
import PageStudio.Proofs.Json.Reading
import PageStudio.Proofs.Json.Source
import PageStudio.Proofs.Json.Token
import PageStudio.Proofs.Node.Alike
import PageStudio.Proofs.Node.Content
import PageStudio.Proofs.Node.Copy
import PageStudio.Proofs.Node.Depth
import PageStudio.Proofs.Node.Elements
import PageStudio.Proofs.Node.Everywhere
import PageStudio.Proofs.Node.Forest
import PageStudio.Proofs.Node.Form
import PageStudio.Proofs.Node.IdRequests
import PageStudio.Proofs.Node.IdSource
import PageStudio.Proofs.Node.Leniency
import PageStudio.Proofs.Node.Moved
import PageStudio.Proofs.Node.Path
import PageStudio.Proofs.Node.Place
import PageStudio.Proofs.Node.Seeds
import PageStudio.Proofs.Project.DefaultViewport
import PageStudio.Proofs.Project.Exports
import PageStudio.Proofs.Project.Form
import PageStudio.Proofs.Project.Reopening
import PageStudio.Proofs.Project.Starter
import PageStudio.Proofs.Site.Comments
import PageStudio.Proofs.Site.Export
import PageStudio.Proofs.Site.FileNames
import PageStudio.Proofs.Site.Independence
import PageStudio.Proofs.Site.InlineStyle
import PageStudio.Proofs.Site.NodeRules
import PageStudio.Proofs.Site.PageIds
import PageStudio.Proofs.Site.Removal
import PageStudio.Proofs.Style.Length
import PageStudio.Proofs.Style.Resolve
import PageStudio.Proofs.Text.Blank
import PageStudio.Proofs.Text.Numbering
import PageStudio.Proofs.Text.Piece
import PageStudio.Proofs.Text.Slug
import PageStudio.Site.Export
import PageStudio.Site.FileNames
import PageStudio.Site.PageText
import PageStudio.Style.Layer
import PageStudio.Style.Length
import PageStudio.Style.Property
import PageStudio.Style.Resolve
import PageStudio.Style.Token
import PageStudio.Style.Viewport
import PageStudio.Text.Blank
import PageStudio.Text.CaseTable
import PageStudio.Text.Checksum
import PageStudio.Text.LowerCase
import PageStudio.Text.Percent
import PageStudio.Text.Piece
import PageStudio.Text.Slug
