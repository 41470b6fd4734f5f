import ComicCatalogue.Archive
import ComicCatalogue.Ascending
import ComicCatalogue.Cache.Basic
import ComicCatalogue.Cache.Registry
import ComicCatalogue.Catalogue
import ComicCatalogue.Clause.Basic
import ComicCatalogue.Clause.Meaning
import ComicCatalogue.Clause.Token
import ComicCatalogue.Decimal.Basic
import ComicCatalogue.Decimal.Binary
import ComicCatalogue.Decimal.Shortest
import ComicCatalogue.Directory
import ComicCatalogue.Error
import ComicCatalogue.Json.Basic
import ComicCatalogue.Json.Decode
import ComicCatalogue.Json.Printer
import ComicCatalogue.Json.Reader
import ComicCatalogue.Like
import ComicCatalogue.PageWindow
import ComicCatalogue.PageWindow.Bounded
import ComicCatalogue.PlainText
import ComicCatalogue.Proofs.Ascending
import ComicCatalogue.Proofs.Cache.Alike
import ComicCatalogue.Proofs.Cache.Bank
import ComicCatalogue.Proofs.Cache.Basic
import ComicCatalogue.Proofs.Cache.Fetch
import ComicCatalogue.Proofs.Cache.History
import ComicCatalogue.Proofs.Cache.Purge
import ComicCatalogue.Proofs.Cache.Recency
import ComicCatalogue.Proofs.Cache.Uses
import ComicCatalogue.Proofs.Cache.Views
import ComicCatalogue.Proofs.Catalogue.Addresses
import ComicCatalogue.Proofs.Catalogue.Alike
import ComicCatalogue.Proofs.Catalogue.Asides
import ComicCatalogue.Proofs.Catalogue.Directory
import ComicCatalogue.Proofs.Catalogue.EntryPages
import ComicCatalogue.Proofs.Catalogue.Freshness
import ComicCatalogue.Proofs.Catalogue.Limits
import ComicCatalogue.Proofs.Catalogue.Looks
import ComicCatalogue.Proofs.Catalogue.Pages
import ComicCatalogue.Proofs.Catalogue.Paging
import ComicCatalogue.Proofs.Catalogue.Paths
import ComicCatalogue.Proofs.Catalogue.Purge
import ComicCatalogue.Proofs.Catalogue.Repeats
import ComicCatalogue.Proofs.Catalogue.Resolution
import ComicCatalogue.Proofs.Catalogue.Restart
import ComicCatalogue.Proofs.Catalogue.Schemes
import ComicCatalogue.Proofs.Catalogue.Served
import ComicCatalogue.Proofs.Catalogue.Session
import ComicCatalogue.Proofs.Catalogue.Shown
import ComicCatalogue.Proofs.Catalogue.Slots
import ComicCatalogue.Proofs.Catalogue.Steps
import ComicCatalogue.Proofs.Catalogue.Transparency
import ComicCatalogue.Proofs.Catalogue.Verdicts
import ComicCatalogue.Proofs.Clause.Condition
import ComicCatalogue.Proofs.Clause.Reading
import ComicCatalogue.Proofs.Clause.Token
import ComicCatalogue.Proofs.Json.Compact
import ComicCatalogue.Proofs.Json.Fields
import ComicCatalogue.Proofs.Json.Reading
import ComicCatalogue.Proofs.Like
import ComicCatalogue.Proofs.Like.Matcher
import ComicCatalogue.Proofs.PageWindow
import ComicCatalogue.Proofs.PageWindow.Bounded
import ComicCatalogue.Proofs.Query.Canonical
import ComicCatalogue.Proofs.Query.Edits
import ComicCatalogue.Proofs.Query.Normal
import ComicCatalogue.Proofs.Query.Record
import ComicCatalogue.Proofs.Query.Settled
import ComicCatalogue.Proofs.Query.Text
import ComicCatalogue.Proofs.Query.Title
import ComicCatalogue.Proofs.Records
import ComicCatalogue.Proofs.Search.Append
import ComicCatalogue.Proofs.Search.Cut
import ComicCatalogue.Proofs.Search.Directive
import ComicCatalogue.Proofs.Search.Extent
import ComicCatalogue.Proofs.Search.Grammar
import ComicCatalogue.Proofs.Search.Heading
import ComicCatalogue.Proofs.Search.Line
import ComicCatalogue.Proofs.Search.Phrases
import ComicCatalogue.Proofs.Search.Plain
import ComicCatalogue.Proofs.Search.Values
import ComicCatalogue.Proofs.Selection.Depth
import ComicCatalogue.Proofs.Selection.Fragment
import ComicCatalogue.Proofs.Selection.Texts
import ComicCatalogue.Proofs.Service
import ComicCatalogue.Proofs.Service.Agreement
import ComicCatalogue.Proofs.Shelf.Consistent
import ComicCatalogue.Proofs.Shelf.Counts
import ComicCatalogue.Proofs.Shelf.Found
import ComicCatalogue.Proofs.Shelf.History
import ComicCatalogue.Proofs.Shelf.LabelOrder
import ComicCatalogue.Proofs.Shelf.Labels
import ComicCatalogue.Proofs.Shelf.Latest
import ComicCatalogue.Proofs.Shelf.Lines
import ComicCatalogue.Proofs.Shelf.Names
import ComicCatalogue.Proofs.Shelf.Order
import ComicCatalogue.Proofs.Shelf.Relations
import ComicCatalogue.Proofs.Shelf.Selected
import ComicCatalogue.Proofs.Shelf.Tables
import ComicCatalogue.Proofs.Shelf.Withdrawal
import ComicCatalogue.Proofs.Slug.Accents
import ComicCatalogue.Proofs.Slug.Alphabet
import ComicCatalogue.Proofs.Slug.Case
import ComicCatalogue.Proofs.Slug.Dividers
import ComicCatalogue.Proofs.Slug.Edges
import ComicCatalogue.Proofs.Slug.Idempotence
import ComicCatalogue.Proofs.Slug.Image
import ComicCatalogue.Proofs.Slug.Interchange
import ComicCatalogue.Proofs.Slug.Memo
import ComicCatalogue.Proofs.Slug.Plain
import ComicCatalogue.Proofs.Slug.Requests
import ComicCatalogue.Proofs.Taxonomy
import ComicCatalogue.Proofs.Unicode.Bits
import ComicCatalogue.Proofs.Unicode.Context
import ComicCatalogue.Proofs.Unicode.Decomposition
import ComicCatalogue.Proofs.Unicode.Edges
import ComicCatalogue.Proofs.Unicode.Lowercase
import ComicCatalogue.Proofs.Unicode.RangeMap
import ComicCatalogue.Proofs.Unicode.Roles
import ComicCatalogue.Proofs.Unicode.Sigmas
import ComicCatalogue.Proofs.Unicode.Tables
import ComicCatalogue.Proofs.Unicode.Words
import ComicCatalogue.Query.Basic
import ComicCatalogue.Query.Call
import ComicCatalogue.Query.Draft
import ComicCatalogue.Query.Record
import ComicCatalogue.Search.Directive
import ComicCatalogue.Search.Reading
import ComicCatalogue.Selection.Basic
import ComicCatalogue.Selection.Condition
import ComicCatalogue.Selection.Depth
import ComicCatalogue.Selection.Fragment
import ComicCatalogue.Settings.Basic
import ComicCatalogue.Settings.Environment
import ComicCatalogue.Settings.Load
import ComicCatalogue.Sha256
import ComicCatalogue.Shelf.Address
import ComicCatalogue.Shelf.Basic
import ComicCatalogue.Shelf.Relations
import ComicCatalogue.Shelf.Select
import ComicCatalogue.Shelf.Tables
import ComicCatalogue.Slug
import ComicCatalogue.Source
import ComicCatalogue.Taxonomy
import ComicCatalogue.Text
import ComicCatalogue.Text.Quoted
import ComicCatalogue.Text.Utf8
import ComicCatalogue.Toml.Document
import ComicCatalogue.Toml.Number
import ComicCatalogue.Toml.Table
import ComicCatalogue.Toml.Text
import ComicCatalogue.Toml.Value
import ComicCatalogue.Tool
import ComicCatalogue.Unicode.Accent
import ComicCatalogue.Unicode.Alphanumeric
import ComicCatalogue.Unicode.Canonical
import ComicCatalogue.Unicode.CaseIgnorable
import ComicCatalogue.Unicode.Cased
import ComicCatalogue.Unicode.Decomposition
import ComicCatalogue.Unicode.Decomposition.EastAsian
import ComicCatalogue.Unicode.Decomposition.Entry
import ComicCatalogue.Unicode.Decomposition.Latin
import ComicCatalogue.Unicode.Decomposition.Presentation
import ComicCatalogue.Unicode.Decomposition.Supplementary
import ComicCatalogue.Unicode.Decomposition.Symbols
import ComicCatalogue.Unicode.Lowercase
import ComicCatalogue.Unicode.LowercaseTable
import ComicCatalogue.Unicode.Mark
import ComicCatalogue.Unicode.Property
import ComicCatalogue.Unicode.RangeMap
import ComicCatalogue.Unicode.Unprintable
import ComicCatalogue.Unicode.Words
