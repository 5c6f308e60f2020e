import DocAudit.Text.Alphanumeric
import DocAudit.Text.Digit
import DocAudit.Text.Punctuation
import DocAudit.Text.Lowercase
import DocAudit.Text.Blank
import DocAudit.Text.Split
import DocAudit.Text.EditDistance
import DocAudit.Text.Suggestion
import DocAudit.Text.Slug
import DocAudit.Text.Wildcard
import DocAudit.Text.PercentEncoding
import DocAudit.Text.Uuid
import DocAudit.Number.Shortest
import DocAudit.Json.Reader
import DocAudit.Json.Printer
import DocAudit.Toml.Reader
import DocAudit.Markdown.Inline.Reader
import DocAudit.Markdown.Builder
import DocAudit.Issue.Audit
import DocAudit.Page.Source
import DocAudit.TypeName
import DocAudit.Parameter
import DocAudit.ValueType.Literal
import DocAudit.ValueType.Description
import DocAudit.Page.Metadata
import DocAudit.Request
import DocAudit.Resource
import DocAudit.Table.Reader
import DocAudit.Outline.Conformity
import DocAudit.Settings.Resolution
import DocAudit.Page.Check
import DocAudit.ResourceGraph.Reference
import DocAudit.Main
import DocAudit.Proofs.Issue.Codes
import DocAudit.Proofs.ResourceGraph.Walk
import DocAudit.Proofs.ResourceGraph.Visits
import DocAudit.Proofs.ResourceGraph.Invariant
import DocAudit.Proofs.ResourceGraph.AllNames
import DocAudit.Proofs.ResourceGraph.Definitions
import DocAudit.Proofs.ResourceGraph.BasesFirst
import DocAudit.Proofs.ResourceGraph.CircularBases
import DocAudit.Proofs.ResourceGraph.AcceptedBases
import DocAudit.Proofs.ResourceGraph.Marks
import DocAudit.Proofs.Text.Untouched
import DocAudit.Proofs.Text.Cleaning
import DocAudit.Proofs.Page.Cells
import DocAudit.Proofs.Text.Split
import DocAudit.Proofs.Text.Lowercase
import DocAudit.Proofs.Text.Words
import DocAudit.Proofs.Text.EditDistance
import DocAudit.Proofs.Text.Edits
import DocAudit.Proofs.Text.Slug
import DocAudit.Proofs.Text.PercentEncoding
import DocAudit.Proofs.Text.Uuid
import DocAudit.Proofs.Text.Suggestion
import DocAudit.Proofs.Lookup
import DocAudit.Proofs.FileTree
import DocAudit.Proofs.Link.Target
import DocAudit.Proofs.Link.Destination
import DocAudit.Proofs.Link.Bookmarks
import DocAudit.Proofs.Link.Suggestions
import DocAudit.Proofs.Page.Bookmarks
import DocAudit.Proofs.ValueType.Description
import DocAudit.Proofs.ValueType.Specificity
import DocAudit.Proofs.ValueType.Phrasings
import DocAudit.Proofs.TypeName
import DocAudit.Proofs.ValueType.Links
import DocAudit.Proofs.ResourceGraph.DeclaredNames
import DocAudit.Proofs.Text.Wildcard
import DocAudit.Proofs.Outline.Nesting
import DocAudit.Proofs.Outline.Trees
import DocAudit.Proofs.Outline.Template
import DocAudit.Proofs.Outline.Course
import DocAudit.Proofs.Outline.Conforms
import DocAudit.Proofs.Settings.Validity
import DocAudit.Proofs.Record
import DocAudit.Proofs.Toml.Overlay
import DocAudit.Proofs.Toml.Paths
import DocAudit.Proofs.Settings.Template
import DocAudit.Proofs.Settings.DeclaredKeys
import DocAudit.Proofs.Settings.RoundTrip
import DocAudit.Proofs.Settings.UsableTemplates
import DocAudit.Proofs.Outline.Accounts
import DocAudit.Proofs.Outline.Choice
import DocAudit.Proofs.Outline.ExactHeadings
import DocAudit.Proofs.Parameter
import DocAudit.Proofs.Json.DistinctNames
import DocAudit.Proofs.Json.Depth
import DocAudit.Proofs.Resource
import DocAudit.Proofs.Table
import DocAudit.Proofs.Table.Rows
import DocAudit.Proofs.Parameter.WellFormed
import DocAudit.Proofs.Parameter.Dimensions
import DocAudit.Proofs.Parameter.Merge
import DocAudit.Proofs.Parameter.Occurrences
import DocAudit.Proofs.Page.Codes
import DocAudit.Proofs.Page.Growth
import DocAudit.Proofs.Page.Reading
import DocAudit.Proofs.Page.Neighbours
import DocAudit.Proofs.Page.UnusedCode
import DocAudit.Proofs.Page.Attempts
import DocAudit.Proofs.Page.Responses
import DocAudit.Proofs.Page.Reconciliation
import DocAudit.Proofs.Page.PropertyTables
import DocAudit.Proofs.Page.Metadata
import DocAudit.Proofs.Page.MethodTables
import DocAudit.Proofs.Page.TableUse
import DocAudit.Proofs.Page.KeptLists
import DocAudit.Proofs.Page.Elements
import DocAudit.Proofs.Page.Topics
import DocAudit.Proofs.Page.ParameterLists
import DocAudit.Proofs.Page.Collections
import DocAudit.Proofs.Page.ShownValues
import DocAudit.Proofs.Page.MissingEnums
import DocAudit.Proofs.ResourceGraph.BrokenReferences
import DocAudit.Proofs.ResourceGraph.Concerned
import DocAudit.Proofs.ResourceGraph.UnresolvedTypes
import DocAudit.Proofs.ResourceGraph.NameFindings
import DocAudit.Proofs.ResourceGraph.DocumentOrder
import DocAudit.Proofs.ResourceGraph.Agreement
import DocAudit.Proofs.ResourceGraph.Stability
import DocAudit.Proofs.DocSet.Selection
import DocAudit.Proofs.DocSet.Pages
import DocAudit.Proofs.DocSet.TargetedReports
import DocAudit.Proofs.DocSet.UnresolvedReferences
import DocAudit.Proofs.DocSet.OrphanedPages
import DocAudit.Proofs.DocSet.ReportLines
import DocAudit.Proofs.Route.Part
import DocAudit.Proofs.Route.Canonical
import DocAudit.Proofs.Route.Query
import DocAudit.Proofs.RequestLine
