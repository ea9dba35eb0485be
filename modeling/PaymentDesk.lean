import PaymentDesk.CommandLine.Arguments
import PaymentDesk.CommandLine.Fault
import PaymentDesk.CommandLine.Help
import PaymentDesk.CommandLine.LogFilter
import PaymentDesk.CommandLine.Options
import PaymentDesk.Config
import PaymentDesk.Dialogue
import PaymentDesk.Error
import PaymentDesk.Json.Fault
import PaymentDesk.Json.Printer
import PaymentDesk.Json.Reader
import PaymentDesk.Json.Value
import PaymentDesk.Log
import PaymentDesk.Main
import PaymentDesk.Menu
import PaymentDesk.Operation
import PaymentDesk.Payload
import PaymentDesk.Program
import PaymentDesk.Proofs.Config.Base
import PaymentDesk.Proofs.Config.Credentials
import PaymentDesk.Proofs.Config.Identifier
import PaymentDesk.Proofs.Config.Place
import PaymentDesk.Proofs.Config.Query
import PaymentDesk.Proofs.Dialogue.Boundless
import PaymentDesk.Proofs.Dialogue.Exchange
import PaymentDesk.Proofs.Dialogue.Heedless
import PaymentDesk.Proofs.Dialogue.History
import PaymentDesk.Proofs.Dialogue.Image
import PaymentDesk.Proofs.Dialogue.Input
import PaymentDesk.Proofs.Dialogue.Replies
import PaymentDesk.Proofs.Dialogue.Silent
import PaymentDesk.Proofs.Dialogue.Simulation
import PaymentDesk.Proofs.Dialogue.Spending
import PaymentDesk.Proofs.Dialogue.Steps
import PaymentDesk.Proofs.Json.Canonical
import PaymentDesk.Proofs.Json.Cursor
import PaymentDesk.Proofs.Json.Entries
import PaymentDesk.Proofs.Json.Page
import PaymentDesk.Proofs.Json.Readable
import PaymentDesk.Proofs.Json.Roundtrip
import PaymentDesk.Proofs.Json.Spaced
import PaymentDesk.Proofs.Json.Tokens
import PaymentDesk.Proofs.Payload
import PaymentDesk.Proofs.Search
import PaymentDesk.Proofs.Session.Blocks
import PaymentDesk.Proofs.Session.Bounds
import PaymentDesk.Proofs.Session.Composition
import PaymentDesk.Proofs.Session.CutShort
import PaymentDesk.Proofs.Session.Discarded
import PaymentDesk.Proofs.Session.Failure
import PaymentDesk.Proofs.Session.Identifier
import PaymentDesk.Proofs.Session.Interview
import PaymentDesk.Proofs.Session.Lines
import PaymentDesk.Proofs.Session.Loop
import PaymentDesk.Proofs.Session.Plan
import PaymentDesk.Proofs.Session.Round
import PaymentDesk.Proofs.Session.Staging
import PaymentDesk.Proofs.Sink
import PaymentDesk.Proofs.Text.Decimal
import PaymentDesk.Proofs.Text.Trim
import PaymentDesk.Proofs.Text.Unbroken
import PaymentDesk.Proofs.Text.Utf8
import PaymentDesk.Proofs.Text.Words
import PaymentDesk.Proofs.Transport.Contract
import PaymentDesk.Proofs.Url.Append
import PaymentDesk.Proofs.Url.Authority
import PaymentDesk.Proofs.Url.Below
import PaymentDesk.Proofs.Url.Domain
import PaymentDesk.Proofs.Url.Form
import PaymentDesk.Proofs.Url.Path
import PaymentDesk.Proofs.Url.Percent
import PaymentDesk.Proofs.Url.Reading
import PaymentDesk.Proofs.Url.Slash
import PaymentDesk.Proofs.Url.UserInfo
import PaymentDesk.Proofs.Url.Visible
import PaymentDesk.Proofs.Wire.Arrivals
import PaymentDesk.Proofs.Wire.Credentials
import PaymentDesk.Proofs.Wire.Diagnostics
import PaymentDesk.Proofs.Wire.Documents
import PaymentDesk.Proofs.Wire.Messages
import PaymentDesk.Proofs.Wire.Once
import PaymentDesk.Proofs.Wire.Search
import PaymentDesk.Proofs.Wire.Simulation
import PaymentDesk.Request
import PaymentDesk.Session
import PaymentDesk.Sink
import PaymentDesk.Text.Blank
import PaymentDesk.Text.Digits
import PaymentDesk.Text.Fields
import PaymentDesk.Text.Line
import PaymentDesk.Text.LineBreak
import PaymentDesk.Text.Printable
import PaymentDesk.Text.Shortest
import PaymentDesk.Text.Similarity
import PaymentDesk.Text.Utf8
import PaymentDesk.Text.Wrap
import PaymentDesk.Transport.Recording
import PaymentDesk.Url.Basic
import PaymentDesk.Url.Domain
import PaymentDesk.Url.Domain.Classes
import PaymentDesk.Url.Domain.Composition
import PaymentDesk.Url.Domain.Label
import PaymentDesk.Url.Domain.Mapping
import PaymentDesk.Url.Domain.Punycode
import PaymentDesk.Url.Host
import PaymentDesk.Url.Ipv4
import PaymentDesk.Url.Ipv6
import PaymentDesk.Url.Parser
import PaymentDesk.Url.Percent
import PaymentDesk.Url.Reference
import PaymentDesk.Wire.Exchange
import PaymentDesk.Wire.Network
import PaymentDesk.Wire.Outgoing
import PaymentDesk.Wire.Status
