import PaperSearch.Cli.Arguments
import PaperSearch.Cli.Log
import PaperSearch.Cli.Output
import PaperSearch.Cli.Program
import PaperSearch.Cli.Request
import PaperSearch.Cli.Run
import PaperSearch.Cli.Table
import PaperSearch.Client.Basic
import PaperSearch.Client.Cache
import PaperSearch.Client.Cancellation
import PaperSearch.Client.Engine
import PaperSearch.Client.Interceptor
import PaperSearch.Client.Iter
import PaperSearch.Client.Limiter
import PaperSearch.Client.Session
import PaperSearch.Client.Settings
import PaperSearch.Client.Trace
import PaperSearch.Config.Basic
import PaperSearch.Config.Load
import PaperSearch.Config.Path
import PaperSearch.Config.Setting
import PaperSearch.Feed.Decoder
import PaperSearch.Feed.Fault
import PaperSearch.Fields
import PaperSearch.Json.Basic
import PaperSearch.Json.Lexeme
import PaperSearch.Json.Parser
import PaperSearch.Json.Printer
import PaperSearch.Json.Record
import PaperSearch.Main
import PaperSearch.Number.Binary
import PaperSearch.Number.Decimal
import PaperSearch.Number.Shortest
import PaperSearch.Paper.Entry
import PaperSearch.Paper.EntryJson
import PaperSearch.Paper.Page
import PaperSearch.Paper.PageJson
import PaperSearch.Query.Builder
import PaperSearch.Query.Field
import PaperSearch.Query.Node
import PaperSearch.Query.ParseError
import PaperSearch.Query.Parser
import PaperSearch.Query.Token
import PaperSearch.Retry.Delay
import PaperSearch.Retry.Policy
import PaperSearch.Search.Error
import PaperSearch.Search.Params
import PaperSearch.Search.ParamsJson
import PaperSearch.Search.Sort
import PaperSearch.Text.Blank
import PaperSearch.Text.Charset
import PaperSearch.Text.Charset.Big5
import PaperSearch.Text.Charset.Big5Plane
import PaperSearch.Text.Charset.DoubleByte
import PaperSearch.Text.Charset.EucJp
import PaperSearch.Text.Charset.EucKr
import PaperSearch.Text.Charset.Gb18030
import PaperSearch.Text.Charset.Gb2312
import PaperSearch.Text.Charset.Iso2022Jp
import PaperSearch.Text.Charset.Jis0208
import PaperSearch.Text.Charset.Jis0212
import PaperSearch.Text.Charset.Ksx1001
import PaperSearch.Text.Charset.Plane
import PaperSearch.Text.Charset.ShiftJis
import PaperSearch.Text.Codepage
import PaperSearch.Text.Cut
import PaperSearch.Text.Digits
import PaperSearch.Text.Extending
import PaperSearch.Text.Lossy
import PaperSearch.Text.Md5
import PaperSearch.Text.Percent
import PaperSearch.Text.Quoted
import PaperSearch.Text.Unprintable
import PaperSearch.Text.Wide
import PaperSearch.Text.Width
import PaperSearch.Time.Calendar
import PaperSearch.Time.Duration
import PaperSearch.Time.Instant
import PaperSearch.Time.Rfc3339
import PaperSearch.Time.Wire
import PaperSearch.Toml.Document
import PaperSearch.Toml.Line
import PaperSearch.Toml.Quote
import PaperSearch.Toml.Table
import PaperSearch.Toml.Word
import PaperSearch.Transport.Outcome
import PaperSearch.Transport.Script
import PaperSearch.Web.Address
import PaperSearch.Web.Charset
import PaperSearch.Web.Exchange
import PaperSearch.Web.Reference
import PaperSearch.Web.Replay
import PaperSearch.Web.Script
import PaperSearch.Web.Wire
import PaperSearch.Xml.Attribute
import PaperSearch.Xml.Event
import PaperSearch.Xml.Markup
import PaperSearch.Xml.Reader
import PaperSearch.Xml.Reference
import PaperSearch.Proofs.Results
import PaperSearch.Proofs.Text.Digits
import PaperSearch.Proofs.Time.Calendar
import PaperSearch.Proofs.Time.Wire
import PaperSearch.Proofs.Query.Built
import PaperSearch.Proofs.Text.Percent
import PaperSearch.Proofs.Query.Scan
import PaperSearch.Proofs.Query.Wire
import PaperSearch.Proofs.Query.Replay
import PaperSearch.Proofs.Query.Words
import PaperSearch.Proofs.Query.Parens
import PaperSearch.Proofs.Query.Saying
import PaperSearch.Proofs.Query.RoundTrip
import PaperSearch.Proofs.Query.Reading
import PaperSearch.Proofs.Query.Stable
import PaperSearch.Proofs.Query.Joined
import PaperSearch.Proofs.Query.Sequences
import PaperSearch.Proofs.Client.Session
import PaperSearch.Proofs.Client.Attempts
import PaperSearch.Proofs.Client.Cancelling
import PaperSearch.Proofs.Client.Relaying
import PaperSearch.Proofs.Cli.Listing
import PaperSearch.Proofs.Client.Sending
import PaperSearch.Proofs.Client.Passing
import PaperSearch.Proofs.Client.Draining
import PaperSearch.Proofs.Client.Coverage
import PaperSearch.Proofs.Text.Cut
import PaperSearch.Proofs.Xml.Content
import PaperSearch.Proofs.Xml.Escape
import PaperSearch.Proofs.Feed.Runs
import PaperSearch.Proofs.Paper.Parts
import PaperSearch.Proofs.Feed.Apart
import PaperSearch.Proofs.Feed.Writing
import PaperSearch.Proofs.Feed.Written
import PaperSearch.Proofs.Time.Rfc3339
import PaperSearch.Proofs.Xml.Places
import PaperSearch.Proofs.Xml.Spelling
import PaperSearch.Proofs.Feed.Places
import PaperSearch.Proofs.Feed.Respelled
import PaperSearch.Proofs.Feed.Foreign
import PaperSearch.Proofs.Feed.Truncated
import PaperSearch.Proofs.Feed.Observed
import PaperSearch.Proofs.Feed.Emptied
import PaperSearch.Proofs.Client.Stores
import PaperSearch.Proofs.Client.Sharing
import PaperSearch.Proofs.Client.Watching
import PaperSearch.Proofs.Client.Paging
import PaperSearch.Proofs.Client.Transparency
import PaperSearch.Proofs.Time.Lenient
import PaperSearch.Proofs.Json.Lexeme
import PaperSearch.Proofs.Json.Text
import PaperSearch.Proofs.Paper.Json
import PaperSearch.Proofs.Query.Keyword
import PaperSearch.Proofs.Query.Survival
import PaperSearch.Proofs.Query.Layout
import PaperSearch.Proofs.Query.Lossless
import PaperSearch.Proofs.Text.Form
import PaperSearch.Proofs.Search.Encoding
import PaperSearch.Proofs.Client.Ending
import PaperSearch.Proofs.Time.Order
import PaperSearch.Proofs.Time.Stamp
import PaperSearch.Proofs.Text.Tidy
import PaperSearch.Proofs.Feed.Tidy
import PaperSearch.Proofs.Time.Offset
import PaperSearch.Proofs.Feed.Change
import PaperSearch.Proofs.Feed.Dates
import PaperSearch.Proofs.Client.Navigation
import PaperSearch.Proofs.Retry.Sanity
import PaperSearch.Proofs.Retry.Growth
import PaperSearch.Proofs.Text.Bytes
import PaperSearch.Proofs.Paper.Identity
import PaperSearch.Proofs.Cli.Request
import PaperSearch.Proofs.Client.Blindness
import PaperSearch.Proofs.Client.Insertion
import PaperSearch.Proofs.Client.Eviction
