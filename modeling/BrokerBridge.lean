import BrokerBridge.Assoc
import BrokerBridge.Channel.Basic
import BrokerBridge.Channel.Definitions
import BrokerBridge.Channel.Memory
import BrokerBridge.CommandLine
import BrokerBridge.Config.Conversion
import BrokerBridge.Config.Environment
import BrokerBridge.Config.Format
import BrokerBridge.Config.KeyPath
import BrokerBridge.Config.Load
import BrokerBridge.Config.Sections
import BrokerBridge.Config.Setting
import BrokerBridge.Config.Source
import BrokerBridge.Config.Tree
import BrokerBridge.Config.Walk
import BrokerBridge.Failure
import BrokerBridge.Files
import BrokerBridge.Identity
import BrokerBridge.Ini
import BrokerBridge.Json.Fault
import BrokerBridge.Json.Mark
import BrokerBridge.Json.Number
import BrokerBridge.Json.Record
import BrokerBridge.Json.Skip
import BrokerBridge.Json.Text
import BrokerBridge.Json.Value
import BrokerBridge.Log
import BrokerBridge.Main
import BrokerBridge.Message
import BrokerBridge.Number.Binary64
import BrokerBridge.Number.Decimal
import BrokerBridge.Number.Word
import BrokerBridge.Proofs.Assoc
import BrokerBridge.Proofs.AttemptCount
import BrokerBridge.Proofs.Bookkeeping
import BrokerBridge.Proofs.Closing
import BrokerBridge.Proofs.Config.Guessing
import BrokerBridge.Proofs.Config.Layers
import BrokerBridge.Proofs.Config.Loading
import BrokerBridge.Proofs.Config.Naming
import BrokerBridge.Proofs.Config.Setting
import BrokerBridge.Proofs.Config.Walking
import BrokerBridge.Proofs.Connecting
import BrokerBridge.Proofs.Consuming
import BrokerBridge.Proofs.Dialing
import BrokerBridge.Proofs.ErrorReport
import BrokerBridge.Proofs.EventLog
import BrokerBridge.Proofs.Except
import BrokerBridge.Proofs.Exchanges
import BrokerBridge.Proofs.Exclusion
import BrokerBridge.Proofs.Export
import BrokerBridge.Proofs.Fifo
import BrokerBridge.Proofs.Json.Acceptance
import BrokerBridge.Proofs.Json.Grammar
import BrokerBridge.Proofs.Json.Marks
import BrokerBridge.Proofs.Json.Numerals
import BrokerBridge.Proofs.Json.Places
import BrokerBridge.Proofs.Json.Plain
import BrokerBridge.Proofs.Json.Reading
import BrokerBridge.Proofs.Json.Records
import BrokerBridge.Proofs.Json.Skipping
import BrokerBridge.Proofs.Json.Strings
import BrokerBridge.Proofs.Json.Unambiguous
import BrokerBridge.Proofs.Json.Writing
import BrokerBridge.Proofs.Ledger
import BrokerBridge.Proofs.Lowercase
import BrokerBridge.Proofs.MappingTable
import BrokerBridge.Proofs.Rendering
import BrokerBridge.Proofs.Retrying
import BrokerBridge.Proofs.RoundTrip
import BrokerBridge.Proofs.RoutingKey
import BrokerBridge.Proofs.Securing
import BrokerBridge.Proofs.Serialization
import BrokerBridge.Proofs.Settlement
import BrokerBridge.Proofs.Substitution
import BrokerBridge.Proofs.Transformation
import BrokerBridge.Proofs.Uri.Authority
import BrokerBridge.Proofs.Uri.Checks
import BrokerBridge.Proofs.Uri.Decoding
import BrokerBridge.Proofs.Uri.Domain
import BrokerBridge.Proofs.Uri.Parsing
import BrokerBridge.Proofs.Uri.Password
import BrokerBridge.Proofs.Uri.Path
import BrokerBridge.Proofs.Utf8
import BrokerBridge.Proofs.Validity
import BrokerBridge.Proofs.Watching
import BrokerBridge.Routing.Consumer
import BrokerBridge.Routing.ErrorRecord
import BrokerBridge.Routing.Forward
import BrokerBridge.Routing.Rule
import BrokerBridge.Routing.Schedule
import BrokerBridge.Routing.Session
import BrokerBridge.Settings.Basic
import BrokerBridge.Settings.FromJson
import BrokerBridge.Supervision.CloseSignal
import BrokerBridge.Supervision.Dial
import BrokerBridge.Supervision.Failure
import BrokerBridge.Supervision.Retry
import BrokerBridge.Supervision.Tls
import BrokerBridge.Supervision.Watch
import BrokerBridge.Text.Blank
import BrokerBridge.Text.Cased
import BrokerBridge.Text.Composite
import BrokerBridge.Text.Hexadecimal
import BrokerBridge.Text.Lowercase
import BrokerBridge.Text.Mark
import BrokerBridge.Text.Normal
import BrokerBridge.Text.Printable
import BrokerBridge.Text.Quoted
import BrokerBridge.Text.Utf8
import BrokerBridge.Toml.Document
import BrokerBridge.Toml.Moment
import BrokerBridge.Toml.Scalar
import BrokerBridge.Toml.Table
import BrokerBridge.Toml.Text
import BrokerBridge.Transform
import BrokerBridge.Uri.Amqp
import BrokerBridge.Uri.Domain.Direction
import BrokerBridge.Uri.Domain.Form
import BrokerBridge.Uri.Domain.Joining
import BrokerBridge.Uri.Domain.Mapping
import BrokerBridge.Uri.Domain.Name
import BrokerBridge.Uri.Host
import BrokerBridge.Uri.Percent
import BrokerBridge.Uri.Punycode
import BrokerBridge.Uri.Url
