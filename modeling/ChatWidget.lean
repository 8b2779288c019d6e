import ChatWidget.Client.Activate
import ChatWidget.Client.Basic
import ChatWidget.Client.Commands
import ChatWidget.Client.Conversation
import ChatWidget.Command.Batch
import ChatWidget.Command.Descriptor
import ChatWidget.Discovery
import ChatWidget.Entries
import ChatWidget.Fault
import ChatWidget.Instant
import ChatWidget.Json.Display
import ChatWidget.Json.Reader
import ChatWidget.Json.Value
import ChatWidget.Json.Writer
import ChatWidget.Log.Event
import ChatWidget.Log.Line
import ChatWidget.Main
import ChatWidget.Markup.Escape
import ChatWidget.Markup.Fragment
import ChatWidget.Markup.Reference
import ChatWidget.Markup.ReferenceTable
import ChatWidget.Markup.Token
import ChatWidget.Net.Cookie
import ChatWidget.Net.Exchange
import ChatWidget.Net.Host
import ChatWidget.Net.Host.Label
import ChatWidget.Net.HttpDate
import ChatWidget.Net.MediaType
import ChatWidget.Net.RequestUrl
import ChatWidget.Net.Response
import ChatWidget.Net.Transport
import ChatWidget.Net.Url
import ChatWidget.Net.Wire
import ChatWidget.Number.Binary64
import ChatWidget.Number.Shortest
import ChatWidget.Number.WholeNumber
import ChatWidget.Op
import ChatWidget.Page.Document
import ChatWidget.Page.Elements
import ChatWidget.Page.Event
import ChatWidget.Page.Selector
import ChatWidget.Settings.Basic
import ChatWidget.Settings.EnvFile
import ChatWidget.Settings.Field
import ChatWidget.Settings.Sources
import ChatWidget.Settings.Yaml
import ChatWidget.Settings.Yaml.Reader
import ChatWidget.Store.FileArea
import ChatWidget.Store.History
import ChatWidget.Store.KeyValue
import ChatWidget.Store.MapArea
import ChatWidget.Store.Medium
import ChatWidget.Store.Objects
import ChatWidget.Store.Path
import ChatWidget.Store.Tree
import ChatWidget.Terminal
import ChatWidget.Text.Blank
import ChatWidget.Text.LineEnds
import ChatWidget.Text.Literal
import ChatWidget.Text.LowerCase
import ChatWidget.Text.LowerCaseTable
import ChatWidget.Text.Percent
import ChatWidget.Text.PrintableTable
import ChatWidget.Text.Utf16
import ChatWidget.Text.Utf8
import ChatWidget.Widget.Basic
import ChatWidget.Widget.Fragments
import ChatWidget.Proofs.Text.Pieces
import ChatWidget.Proofs.Markup.Escape
import ChatWidget.Proofs.Markup.Reading
import ChatWidget.Proofs.Markup.Bubble
import ChatWidget.Proofs.Markup.Stylesheet
import ChatWidget.Proofs.Net.Ending
import ChatWidget.Proofs.Net.Delivery
import ChatWidget.Proofs.Net.Behaviour
import ChatWidget.Proofs.Number.Decimal
import ChatWidget.Proofs.Number.Shortest
import ChatWidget.Proofs.Entries
import ChatWidget.Proofs.Net.Jar
import ChatWidget.Proofs.Net.Overlap
import ChatWidget.Proofs.Json.Numeral
import ChatWidget.Proofs.Json.Grammar
import ChatWidget.Proofs.Json.Derivation
import ChatWidget.Proofs.Json.Tidy
import ChatWidget.Proofs.Json.ReadSound
import ChatWidget.Proofs.Json.RoundTrip
import ChatWidget.Proofs.Store.Objects
import ChatWidget.Proofs.Store.Opening
import ChatWidget.Proofs.Store.Area
import ChatWidget.Proofs.Store.Durable
import ChatWidget.Proofs.Store.Change
import ChatWidget.Proofs.Store.Calls
import ChatWidget.Proofs.Page.Links
import ChatWidget.Proofs.Page.Shows
import ChatWidget.Proofs.Page.Walled
import ChatWidget.Proofs.Widget.Mount
import ChatWidget.Proofs.Widget.Display
import ChatWidget.Proofs.Widget.InPage
import ChatWidget.Proofs.Store.Acyclic
import ChatWidget.Proofs.Store.History
import ChatWidget.Proofs.Command.Batch
import ChatWidget.Proofs.Command.Nesting
import ChatWidget.Proofs.Client.Surface
import ChatWidget.Proofs.Client.Speaking
import ChatWidget.Proofs.Client.Run
import ChatWidget.Proofs.Client.Contained
import ChatWidget.Proofs.Client.Initialization
import ChatWidget.Proofs.Text.Utf8
import ChatWidget.Proofs.Json.OneLine
import ChatWidget.Proofs.Store.File
import ChatWidget.Proofs.Store.Saved
import ChatWidget.Proofs.Store.Top
import ChatWidget.Proofs.Client.Reload
import ChatWidget.Proofs.Store.Watched
import ChatWidget.Proofs.Store.Places
import ChatWidget.Proofs.Store.Recording
import ChatWidget.Proofs.Store.Matching
import ChatWidget.Proofs.Store.Neighbours
import ChatWidget.Proofs.Store.Unshared
import ChatWidget.Proofs.Store.Reopening
import ChatWidget.Proofs.Net.Filing
import ChatWidget.Proofs.Net.InTurn
import ChatWidget.Proofs.Store.Folder
import ChatWidget.Proofs.Client.Restoring
import ChatWidget.Proofs.Net.Outstanding
import ChatWidget.Proofs.Client.Awaiting
import ChatWidget.Proofs.Page.Forest
import ChatWidget.Proofs.Page.Order
import ChatWidget.Proofs.Page.Dispatch
import ChatWidget.Proofs.Page.Editing
import ChatWidget.Proofs.Text.Percent
import ChatWidget.Proofs.Store.Persistent
import ChatWidget.Proofs.Store.PathLaws
import ChatWidget.Proofs.Store.Plain
import ChatWidget.Proofs.Store.PutBack
import ChatWidget.Proofs.Net.Address
import ChatWidget.Proofs.Net.Service
import ChatWidget.Proofs.Client.Endpoint
import ChatWidget.Proofs.Net.Discovery
import ChatWidget.Proofs.Net.Origin
import ChatWidget.Proofs.Net.MediaType
import ChatWidget.Proofs.Net.Classification
import ChatWidget.Proofs.Markup.Lengths
import ChatWidget.Proofs.Markup.Room
import ChatWidget.Proofs.Markup.Rendering
import ChatWidget.Proofs.Page.TextContent
import ChatWidget.Proofs.Page.Hearing
import ChatWidget.Proofs.Client.Stylesheets
import ChatWidget.Proofs.Client.Activation
import ChatWidget.Proofs.Settings.ConfigFile
import ChatWidget.Proofs.Net.Marks
import ChatWidget.Proofs.Net.Query
import ChatWidget.Proofs.Page.Sweeping
import ChatWidget.Proofs.Client.Answering
import ChatWidget.Proofs.Markup.Lossless
import ChatWidget.Proofs.Page.Classes
import ChatWidget.Proofs.Log.Journal
import ChatWidget.Proofs.Settings.Given
import ChatWidget.Proofs.Client.Identity
import ChatWidget.Proofs.Page.Assembly
import ChatWidget.Proofs.Page.OpenPath
