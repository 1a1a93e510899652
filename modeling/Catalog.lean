import Catalog.CSharp.ComponentClass
import Catalog.CSharp.Declaration
import Catalog.CSharp.DocComment
import Catalog.CSharp.Token
import Catalog.CSharp.Tree
import Catalog.Category
import Catalog.Checkout
import Catalog.CommandLine.Choices
import Catalog.CommandLine.Run
import Catalog.Component
import Catalog.Demo.Markup
import Catalog.Demo.Page
import Catalog.Demo.Samples
import Catalog.Entry
import Catalog.Failure
import Catalog.Files.Glob
import Catalog.Files.Path
import Catalog.Files.Tree
import Catalog.Git
import Catalog.Index.Build
import Catalog.Index.Progress
import Catalog.Index.Query
import Catalog.Index.State
import Catalog.Index.Turn
import Catalog.Json.Basic
import Catalog.Json.Printer
import Catalog.Json.Reader
import Catalog.Keyed
import Catalog.Link
import Catalog.Main
import Catalog.Proofs.Keyed
import Catalog.Proofs.Store.Contents
import Catalog.Relationship
import Catalog.Repository
import Catalog.Search
import Catalog.Service.Answer
import Catalog.Service.Request
import Catalog.Service.Route
import Catalog.Service.State
import Catalog.Settings
import Catalog.Store
import Catalog.Task.Board
import Catalog.Task.Listing
import Catalog.Text.Blank
import Catalog.Text.Case
import Catalog.Text.Integer
import Catalog.Text.Quoted
import Catalog.Text.Scan
import Catalog.Text.Table.Letter
import Catalog.Text.Table.Printable
import Catalog.Text.Table.Range
import Catalog.Text.Table.Word
import Catalog.Text.Utf8
import Catalog.Text.Word
import Catalog.Tool.Call
import Catalog.Tool.Declaration
import Catalog.Tool.Markdown
import Catalog.Tool.Run
import Catalog.Proofs.Store.History
import Catalog.Proofs.Index.Coalescing
import Catalog.Proofs.Index.Steps
import Catalog.Proofs.Index.Phases
import Catalog.Proofs.Index.Folds
import Catalog.Proofs.Index.Fusion
import Catalog.Index.Crew
import Catalog.Proofs.Index.Crew
import Catalog.Proofs.Index.Abort
import Catalog.Proofs.Index.SingleWorker
import Catalog.Proofs.Task.Exclusion
import Catalog.Proofs.Index.Completion
import Catalog.Proofs.Index.Lifetime
import Catalog.Proofs.Index.Rebuild
import Catalog.Proofs.Demo.Constant
import Catalog.Proofs.Index.Isolation
import Catalog.Proofs.Index.LookUp
import Catalog.Proofs.Index.Relatives
import Catalog.Proofs.Index.Reports
import Catalog.Proofs.Demo.RoundTrip
import Catalog.Proofs.Index.Workers
import Catalog.Proofs.Index.Mirror
import Catalog.Proofs.Index.Naming
import Catalog.Proofs.Search.Ranking
import Catalog.Proofs.Search.ExactName
import Catalog.Proofs.Tool.Outcome
import Catalog.Proofs.Service.ToolCall
import Catalog.Proofs.Task.Orderly
import Catalog.Proofs.Task.Lifecycle
import Catalog.Proofs.Task.Refusal
import Catalog.Proofs.Index.Summary
import Catalog.Proofs.Index.Taxonomy
import Catalog.Proofs.Index.Schedule
import Catalog.Proofs.Index.Cancellation
import Catalog.Proofs.Tool.Listing
import Catalog.Proofs.Lists
import Catalog.Service.Course
import Catalog.Proofs.Task.Alone
import Catalog.Proofs.Service.Visit
import Catalog.Proofs.Service.Steps
import Catalog.Proofs.Service.Management
import Catalog.Proofs.Service.Builds
import Catalog.Proofs.CSharp.Places
import Catalog.Proofs.CSharp.Members
import Catalog.Proofs.Failure
import Catalog.Proofs.Index.Provenance
import Catalog.Proofs.Tool.Reasons
import Catalog.Proofs.Demo.Links
import Catalog.Proofs.Demo.Numbering
import Catalog.Proofs.Tool.ExampleByName
import Catalog.Proofs.Demo.Tags
import Catalog.Proofs.Demo.Titles
import Catalog.Proofs.Tool.BlankText
import Catalog.Proofs.CommandLine.Ending
import Catalog.Proofs.Repository
import Catalog.Proofs.Text.Lines
import Catalog.Proofs.Demo.Directives
import Catalog.Proofs.Tool.ParameterTable
import Catalog.Proofs.Files.Listing
import Catalog.Proofs.Checkout
import Catalog.Proofs.Search.Fields
import Catalog.Proofs.Category
