import Locator.Browser.Action
import Locator.Browser.Basic
import Locator.Data.Json.Reader
import Locator.Data.Json.Record
import Locator.Data.Json.Writer
import Locator.Data.Record
import Locator.Data.Value
import Locator.Data.Yaml.Cursor
import Locator.Data.Yaml.Reader
import Locator.Data.Yaml.Scalar
import Locator.Data.Yaml.Text
import Locator.Error
import Locator.Geometry
import Locator.Grid.Basic
import Locator.Grid.Navigation
import Locator.Grid.RowIndex
import Locator.Grid.RowSpec
import Locator.Interaction.Choice
import Locator.Interaction.Clear
import Locator.Interaction.CountCheck
import Locator.Interaction.Scroll
import Locator.Interaction.Shared
import Locator.Interaction.Stability
import Locator.Keyed
import Locator.Page.Basic
import Locator.Page.Browser
import Locator.Page.Faults
import Locator.Path.Basic
import Locator.Path.Build
import Locator.Path.Description
import Locator.Path.Equality
import Locator.Path.FormField
import Locator.Path.Html
import Locator.Path.Outline
import Locator.Path.Properties
import Locator.Path.Query
import Locator.Proofs.Browser.Akin
import Locator.Proofs.Browser.Alike
import Locator.Proofs.Browser.Conclusions
import Locator.Proofs.Browser.Confined
import Locator.Proofs.Browser.Journal
import Locator.Proofs.Browser.Timeouts
import Locator.Proofs.Data.Json.Numbers
import Locator.Proofs.Data.Json.Scalars
import Locator.Proofs.Data.Json.Values
import Locator.Proofs.Data.Overlays
import Locator.Proofs.Data.Records
import Locator.Proofs.Data.Schemas
import Locator.Proofs.Document.Neighbours
import Locator.Proofs.Document.Tree
import Locator.Proofs.Geometry
import Locator.Proofs.Grid.Alike
import Locator.Proofs.Grid.Columns
import Locator.Proofs.Grid.Confined
import Locator.Proofs.Grid.HeaderReach
import Locator.Proofs.Grid.PathAnswers
import Locator.Proofs.Grid.RowIndices
import Locator.Proofs.Grid.RowSearch
import Locator.Proofs.Grid.RowVisibility
import Locator.Proofs.Grid.RowsPassed
import Locator.Proofs.Grid.Sight
import Locator.Proofs.Grid.Start
import Locator.Proofs.Grid.Targets
import Locator.Proofs.Grid.Timeouts
import Locator.Proofs.Grid.Verification
import Locator.Proofs.Interaction.Changing
import Locator.Proofs.Interaction.Clearing
import Locator.Proofs.Interaction.ClearingEffort
import Locator.Proofs.Interaction.Counting
import Locator.Proofs.Interaction.Dropdown
import Locator.Proofs.Interaction.DropdownReach
import Locator.Proofs.Interaction.Emptying
import Locator.Proofs.Interaction.ResolvingOnce
import Locator.Proofs.Interaction.SearchProtocol
import Locator.Proofs.Interaction.Stillness
import Locator.Proofs.Page.Agreement
import Locator.Proofs.Page.Clicks
import Locator.Proofs.Page.Failures
import Locator.Proofs.Page.Operations
import Locator.Proofs.Page.Reachable
import Locator.Proofs.Page.Registrations
import Locator.Proofs.Page.Rendered
import Locator.Proofs.Page.Scrolling
import Locator.Proofs.Page.Search
import Locator.Proofs.Page.Sizes
import Locator.Proofs.Page.Steady
import Locator.Proofs.Page.Stops
import Locator.Proofs.Page.Typing
import Locator.Proofs.Path.Adjacency
import Locator.Proofs.Path.Bare
import Locator.Proofs.Path.Chain
import Locator.Proofs.Path.Classes
import Locator.Proofs.Path.Compilation
import Locator.Proofs.Path.Conjunction
import Locator.Proofs.Path.Exchange
import Locator.Proofs.Path.Fragments
import Locator.Proofs.Path.Grouping
import Locator.Proofs.Path.Kinds
import Locator.Proofs.Path.Leaves
import Locator.Proofs.Path.Meaning
import Locator.Proofs.Path.Nesting
import Locator.Proofs.Path.Obtainable
import Locator.Proofs.Path.Printed
import Locator.Proofs.Path.Relating
import Locator.Proofs.Path.Representation
import Locator.Proofs.Path.Selection
import Locator.Proofs.Path.Terms
import Locator.Proofs.Path.Tests
import Locator.Proofs.Path.WellFormed
import Locator.Proofs.Path.Wording
import Locator.Proofs.Settings.Overlaid
import Locator.Proofs.Settings.Restored
import Locator.Proofs.Text.Numerals
import Locator.Proofs.XPath.Conditions
import Locator.Proofs.XPath.Connectives
import Locator.Proofs.XPath.Evaluation
import Locator.Proofs.XPath.Fragments
import Locator.Proofs.XPath.Grammar
import Locator.Proofs.XPath.Leaves
import Locator.Proofs.XPath.Lexing
import Locator.Proofs.XPath.Membership
import Locator.Proofs.XPath.Operands
import Locator.Proofs.XPath.Patterns
import Locator.Proofs.XPath.Readings
import Locator.Proofs.XPath.Sets
import Locator.Proofs.XPath.Site
import Locator.Proofs.XPath.Spelling
import Locator.Proofs.XPath.Steps
import Locator.Proofs.XPath.StringReader
import Locator.Proofs.XPath.Strings
import Locator.Proofs.XPath.Tokens
import Locator.Proofs.XPath.Wildcard
import Locator.Proofs.XPath.Words
import Locator.Proofs.XPath.Writing
import Locator.Settings.Basic
import Locator.Settings.Load
import Locator.Settings.Shapes
import Locator.Text.Blank
import Locator.Text.Duration
import Locator.Text.Escaped
import Locator.Text.GraphemeExtend
import Locator.Text.Numeral
import Locator.Text.Pieces
import Locator.Text.Unprintable
import Locator.XPath.Condition
import Locator.XPath.Expr
import Locator.XPath.Lexical
import Locator.XPath.Printer
