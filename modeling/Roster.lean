import Roster.Charset.Basic
import Roster.Charset.Chinese
import Roster.Charset.HangulData
import Roster.Charset.Japanese
import Roster.Charset.KanjiData
import Roster.Charset.MoreKanjiData
import Roster.Charset.Paired
import Roster.Charset.SimplifiedData
import Roster.Charset.SingleByteData
import Roster.Charset.TraditionalData
import Roster.CommandLine.Fault
import Roster.CommandLine.Given
import Roster.CommandLine.Grammar
import Roster.CommandLine.Request
import Roster.CommandLine.Usage
import Roster.Config
import Roster.Cursor
import Roster.Documentation
import Roster.Error
import Roster.Html.Builder.Body
import Roster.Html.Builder.Formatting
import Roster.Html.Builder.Head
import Roster.Html.Builder.Rules
import Roster.Html.Builder.State
import Roster.Html.Builder.Table
import Roster.Html.Draft
import Roster.Html.Entity
import Roster.Html.EntityData
import Roster.Html.Lexer
import Roster.Html.Node
import Roster.Html.Parse
import Roster.Html.Token
import Roster.Http.Failure
import Roster.Http.Fetch
import Roster.Http.Site
import Roster.Index
import Roster.Json.Fault
import Roster.Json.Reader
import Roster.Json.Record
import Roster.Json.Skip
import Roster.Json.Token
import Roster.Json.Value
import Roster.Language
import Roster.Main
import Roster.Mention
import Roster.Merged.Basic
import Roster.Merged.Written
import Roster.Number.Double
import Roster.Number.Shortest
import Roster.Path
import Roster.Policy
import Roster.Pool
import Roster.Principal
import Roster.Program
import Roster.Proofs.Catalog
import Roster.Proofs.Cursor.Blocks
import Roster.Proofs.Cursor.Window
import Roster.Proofs.Cursor.Yaml
import Roster.Proofs.Documentation
import Roster.Proofs.Effects
import Roster.Proofs.Failures
import Roster.Proofs.Index
import Roster.Proofs.Json.Delimited
import Roster.Proofs.Json.Documents
import Roster.Proofs.Json.Escaping
import Roster.Proofs.Json.Layout
import Roster.Proofs.Json.Numbers
import Roster.Proofs.Json.Scalars
import Roster.Proofs.Json.Skipping
import Roster.Proofs.Json.Spelling
import Roster.Proofs.Json.Strings
import Roster.Proofs.Json.Values
import Roster.Proofs.Listing
import Roster.Proofs.Merging
import Roster.Proofs.Name
import Roster.Proofs.Network
import Roster.Proofs.Page
import Roster.Proofs.Paragraphs
import Roster.Proofs.Path
import Roster.Proofs.Policy
import Roster.Proofs.Policy.Attempts
import Roster.Proofs.Policy.Payload
import Roster.Proofs.Policy.ServiceMap
import Roster.Proofs.Pool
import Roster.Proofs.Principal.Readings
import Roster.Proofs.Principal.Runs
import Roster.Proofs.Principal.Search
import Roster.Proofs.Provenance
import Roster.Proofs.Store
import Roster.Proofs.Summary
import Roster.Proofs.Text.Cutting
import Roster.Proofs.Text.Lines
import Roster.Proofs.Text.Lowercase
import Roster.Proofs.Text.Trimming
import Roster.Proofs.Utf8
import Roster.Proofs.Written
import Roster.Run
import Roster.Service
import Roster.Store
import Roster.Suggestion
import Roster.Text.Basic
import Roster.Text.CaseData
import Roster.Text.Composed
import Roster.Text.ComposedData
import Roster.Text.Lowercase
import Roster.Text.Quoted
import Roster.Text.Similarity
import Roster.Text.Table
import Roster.Text.Utf8
import Roster.Trace
import Roster.Url.Basic
import Roster.Url.Domain
import Roster.Url.Domain.MappingData
import Roster.Url.Domain.ScriptData
import Roster.Url.Host
import Roster.Url.Parse
import Roster.Url.Percent
import Roster.Url.Punycode
import Roster.Url.Segments
import Roster.Workbench
