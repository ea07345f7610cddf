import Wiretap.Bytes
import Wiretap.Calendar
import Wiretap.Client.Basic
import Wiretap.Client.Building
import Wiretap.Client.Call
import Wiretap.Client.Default
import Wiretap.Client.Dumping
import Wiretap.Command.Arguments
import Wiretap.Command.Run
import Wiretap.Config.Basic
import Wiretap.Config.Decoding
import Wiretap.Config.Encoding
import Wiretap.Config.Inspection
import Wiretap.Config.Loading
import Wiretap.Config.Setting
import Wiretap.Config.Validation
import Wiretap.Cookie.Basic
import Wiretap.Cookie.Date
import Wiretap.Cookie.Jar
import Wiretap.Cookie.Reading
import Wiretap.Cookie.Suffix
import Wiretap.Cookie.Suffix.Table
import Wiretap.Decimal.Shortest
import Wiretap.Disk
import Wiretap.Draft
import Wiretap.Dump.Hook
import Wiretap.Dump.Options
import Wiretap.Dump.Output
import Wiretap.Dump.Preset
import Wiretap.Duration
import Wiretap.Exchange.Basic
import Wiretap.Exchange.Fetch
import Wiretap.Exchange.Redirect
import Wiretap.Failure
import Wiretap.Header.Map
import Wiretap.Header.Name
import Wiretap.Header.Value
import Wiretap.Json.Basic
import Wiretap.Json.Number
import Wiretap.Json.Printing
import Wiretap.Json.Reading
import Wiretap.Json.Token
import Wiretap.Logger
import Wiretap.Main
import Wiretap.MediaType
import Wiretap.MediaType.Parameters
import Wiretap.Message.Head
import Wiretap.Message.Request
import Wiretap.Message.Response
import Wiretap.Message.Wire
import Wiretap.Message.Wire.Reading
import Wiretap.Method
import Wiretap.Network
import Wiretap.Session
import Wiretap.Status
import Wiretap.Text.Ascii
import Wiretap.Text.Blank
import Wiretap.Text.Charset
import Wiretap.Text.Charset.Table
import Wiretap.Text.Inspect
import Wiretap.Text.Inspect.Printable
import Wiretap.Text.Normal
import Wiretap.Text.Normal.Combining
import Wiretap.Text.Normal.Composition
import Wiretap.Text.Ranges
import Wiretap.Text.Utf8
import Wiretap.Toml.Document
import Wiretap.Toml.Instant
import Wiretap.Toml.Key
import Wiretap.Toml.Node
import Wiretap.Toml.Number
import Wiretap.Toml.Quoted
import Wiretap.Toml.Reading
import Wiretap.Toml.Trivia
import Wiretap.Toml.Value
import Wiretap.Transport.Basic
import Wiretap.Transport.Pool
import Wiretap.Transport.Route
import Wiretap.Treatment
import Wiretap.Url.Basic
import Wiretap.Url.Host
import Wiretap.Url.Idna
import Wiretap.Url.Idna.Mapping
import Wiretap.Url.Ipv4
import Wiretap.Url.Ipv6
import Wiretap.Url.Path
import Wiretap.Url.Percent
import Wiretap.Url.Punycode
import Wiretap.Url.Reading
import Wiretap.Version
import Wiretap.Proofs.Session.Confined
import Wiretap.Proofs.Exchange.Records
import Wiretap.Proofs.Exchange.Transparency
import Wiretap.Proofs.Exchange.Footprint
import Wiretap.Proofs.Client.Fitting
import Wiretap.Proofs.Client.Control
import Wiretap.Proofs.World.Basic
import Wiretap.Proofs.World.Sound
import Wiretap.Proofs.Client.Likeness
import Wiretap.Proofs.World.Independence
import Wiretap.Proofs.Exchange.Chain
import Wiretap.Proofs.World.Snapshot
import Wiretap.Proofs.Exchange.Transcript
import Wiretap.Proofs.Exchange.Separation
import Wiretap.Proofs.Relay.Basic
import Wiretap.Proofs.Relay.Conservation
import Wiretap.Proofs.Relay.Synchrony
import Wiretap.Proofs.Url.Hosted
import Wiretap.Proofs.Client.Buildable
import Wiretap.Proofs.Client.HeaderOrder
import Wiretap.Proofs.Cookie.Isolation
import Wiretap.Proofs.Exchange.Traffic
import Wiretap.Proofs.Exchange.Fidelity
import Wiretap.Proofs.Exchange.Undisturbed
import Wiretap.Proofs.Client.Writes
import Wiretap.Proofs.Draft.Resolution
import Wiretap.Proofs.Transport.Pooling
import Wiretap.Proofs.Session.Reported
import Wiretap.Proofs.Client.Unmoved
import Wiretap.Proofs.World.Refusal
import Wiretap.Proofs.Client.Commutation
import Wiretap.Proofs.Header.Naming
import Wiretap.Proofs.Client.Effect
import Wiretap.Proofs.Text.Utf8
import Wiretap.Proofs.Cookie.Carriage
import Wiretap.Proofs.Exchange.Retention
import Wiretap.Proofs.Client.Quiet
import Wiretap.Proofs.Exchange.Flushed
import Wiretap.Proofs.Command.Printed
import Wiretap.Proofs.Command.Setup
import Wiretap.Proofs.Command.EndToEnd
import Wiretap.Proofs.Client.Flushing
import Wiretap.Proofs.Cookie.Framing
import Wiretap.Proofs.Draft.Verdict
import Wiretap.Proofs.Draft.Overriding
import Wiretap.Proofs.World.Legality
import Wiretap.Proofs.Url.Legible
import Wiretap.Proofs.Message.Lines
import Wiretap.Proofs.Message.ReadBack
import Wiretap.Proofs.Exchange.Decoding
import Wiretap.Proofs.Config.Editing
import Wiretap.Proofs.Config.Diagnosis
