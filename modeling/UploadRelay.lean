import UploadRelay.Backend.Address
import UploadRelay.Backend.Exchange
import UploadRelay.Backend.Host
import UploadRelay.Backend.Reception
import UploadRelay.Backend.Sending
import UploadRelay.Calendar.Date
import UploadRelay.Calendar.HeaderDate
import UploadRelay.Calendar.Pattern
import UploadRelay.Caller
import UploadRelay.Charset.Chinese
import UploadRelay.Charset.Grid
import UploadRelay.Charset.Hanzi
import UploadRelay.Charset.HanziTraditional
import UploadRelay.Charset.Japanese
import UploadRelay.Charset.Kanji
import UploadRelay.Charset.Korean
import UploadRelay.Charset.Named
import UploadRelay.Charset.Pages
import UploadRelay.Charset.Sextets
import UploadRelay.Charset.Switching
import UploadRelay.CommandLine.Command
import UploadRelay.CommandLine.Numeral
import UploadRelay.CommandLine.Program
import UploadRelay.CommandLine.Publish
import UploadRelay.CommandLine.Serve
import UploadRelay.Compression.Inflate
import UploadRelay.Compression.Wrapped
import UploadRelay.Domain.Letters
import UploadRelay.Domain.Name
import UploadRelay.Domain.Prepared
import UploadRelay.Fault
import UploadRelay.Files.Path
import UploadRelay.Files.Tree
import UploadRelay.Http.MediaType
import UploadRelay.Http.Message
import UploadRelay.Http.Parameters
import UploadRelay.Json.Display
import UploadRelay.Json.Reader
import UploadRelay.Json.Value
import UploadRelay.Json.Writer
import UploadRelay.Log.Access
import UploadRelay.Log.Entry
import UploadRelay.Log.Line
import UploadRelay.Log.Template
import UploadRelay.Main
import UploadRelay.Multipart.FileType
import UploadRelay.Multipart.Reader
import UploadRelay.Multipart.Writer
import UploadRelay.Number.Decimal
import UploadRelay.Number.Double
import UploadRelay.Number.Num
import UploadRelay.Number.Places
import UploadRelay.Number.Shortest
import UploadRelay.Principal
import UploadRelay.Proofs.Backend.Answering
import UploadRelay.Proofs.Backend.Asking
import UploadRelay.Proofs.Backend.Faults
import UploadRelay.Proofs.Backend.Receiving
import UploadRelay.Proofs.Backend.Retrying
import UploadRelay.Proofs.Backend.Sending
import UploadRelay.Proofs.Backend.Waiting
import UploadRelay.Proofs.Calendar.Range
import UploadRelay.Proofs.Caller.Calling
import UploadRelay.Proofs.Caller.Correlation
import UploadRelay.Proofs.Caller.Editing
import UploadRelay.Proofs.Caller.Failing
import UploadRelay.Proofs.Caller.History
import UploadRelay.Proofs.Caller.Preflight
import UploadRelay.Proofs.Caller.Remembering
import UploadRelay.Proofs.Caller.Stamping
import UploadRelay.Proofs.Caller.Surfacing
import UploadRelay.Proofs.Caller.Twins
import UploadRelay.Proofs.Files.Leftovers
import UploadRelay.Proofs.Files.Path
import UploadRelay.Proofs.Files.Tree
import UploadRelay.Proofs.Json.Brackets
import UploadRelay.Proofs.Json.Decoding
import UploadRelay.Proofs.Json.Likeness
import UploadRelay.Proofs.Json.Members
import UploadRelay.Proofs.Json.Numbers
import UploadRelay.Proofs.Json.RoundTrip
import UploadRelay.Proofs.Json.Shape
import UploadRelay.Proofs.Json.Showing
import UploadRelay.Proofs.Json.Sorting
import UploadRelay.Proofs.Json.Spelling
import UploadRelay.Proofs.Json.Standard
import UploadRelay.Proofs.Json.Strings
import UploadRelay.Proofs.Log.Line
import UploadRelay.Proofs.Log.Record
import UploadRelay.Proofs.Number.Exact
import UploadRelay.Proofs.Number.Rounding
import UploadRelay.Proofs.Retry.Asking
import UploadRelay.Proofs.Rpc.Cache
import UploadRelay.Proofs.Rpc.CacheHistory
import UploadRelay.Proofs.Rpc.Canonical
import UploadRelay.Proofs.Rpc.Envelope
import UploadRelay.Proofs.Rpc.Forwarding
import UploadRelay.Proofs.Rpc.Key
import UploadRelay.Proofs.Rpc.Precedence
import UploadRelay.Proofs.Rpc.Relaying
import UploadRelay.Proofs.Rpc.Request
import UploadRelay.Proofs.Rpc.Response
import UploadRelay.Proofs.Service.Accounts
import UploadRelay.Proofs.Service.Bodies
import UploadRelay.Proofs.Service.Cleanup
import UploadRelay.Proofs.Service.Fidelity
import UploadRelay.Proofs.Service.Independence
import UploadRelay.Proofs.Service.Matching
import UploadRelay.Proofs.Service.Observability
import UploadRelay.Proofs.Service.Observing
import UploadRelay.Proofs.Service.Publishing
import UploadRelay.Proofs.Service.RemoteErrors
import UploadRelay.Proofs.Service.Replies
import UploadRelay.Proofs.Service.Routing
import UploadRelay.Proofs.Service.Stamping
import UploadRelay.Proofs.Service.Standard
import UploadRelay.Proofs.Service.Traffic
import UploadRelay.Proofs.Service.Twins
import UploadRelay.Proofs.Service.Visits
import UploadRelay.Proofs.Site.Effects
import UploadRelay.Proofs.Site.Reports
import UploadRelay.Proofs.Site.Stamping
import UploadRelay.Proofs.Site.Twins
import UploadRelay.Proofs.Text.Numeral
import UploadRelay.Proofs.Text.Utf8
import UploadRelay.Proofs.Tokens.Bearer
import UploadRelay.Proofs.Tokens.Loading
import UploadRelay.Proofs.Upload.Confinement
import UploadRelay.Proofs.Upload.Form
import UploadRelay.Proofs.Upload.Leftovers
import UploadRelay.Proofs.Upload.Occurrence
import UploadRelay.Proofs.Upload.Save
import UploadRelay.Proofs.Upload.Saving
import UploadRelay.Proofs.Upload.Scratch
import UploadRelay.Proofs.Upload.Twins
import UploadRelay.Reporter
import UploadRelay.Retry.After
import UploadRelay.Retry.Policy
import UploadRelay.Rpc.Cache
import UploadRelay.Rpc.Request
import UploadRelay.Rpc.Response
import UploadRelay.Scratch
import UploadRelay.Service.App
import UploadRelay.Service.Client
import UploadRelay.Service.FieldKind
import UploadRelay.Service.Handler
import UploadRelay.Service.Origins
import UploadRelay.Service.Page
import UploadRelay.Service.PathTemplate
import UploadRelay.Site.Basic
import UploadRelay.Text.Blank
import UploadRelay.Text.Case
import UploadRelay.Text.CodePoint
import UploadRelay.Text.Combining
import UploadRelay.Text.Composition
import UploadRelay.Text.Direction
import UploadRelay.Text.Encoding
import UploadRelay.Text.Escape
import UploadRelay.Text.Punycode
import UploadRelay.Text.Quoted
import UploadRelay.Text.Utf8
import UploadRelay.Text.Word
import UploadRelay.Tokens
import UploadRelay.Upload.Form
import UploadRelay.Upload.Save
