import HeaterLink.Account.Bridge
import HeaterLink.Account.Config
import HeaterLink.Account.ConfigText
import HeaterLink.Account.Session
import HeaterLink.Binary64
import HeaterLink.Bytes
import HeaterLink.Cloud.Client
import HeaterLink.Delivery
import HeaterLink.Device.Authorization
import HeaterLink.Device.Client
import HeaterLink.Device.Command
import HeaterLink.Digest.Hmac
import HeaterLink.Digest.Sha1
import HeaterLink.Endpoint
import HeaterLink.Environment
import HeaterLink.Envelope
import HeaterLink.Error
import HeaterLink.ErrorType
import HeaterLink.Form
import HeaterLink.Http
import HeaterLink.IdMap
import HeaterLink.Json.Number
import HeaterLink.Json.Reader
import HeaterLink.Json.Skim
import HeaterLink.Json.Text
import HeaterLink.Json.Value
import HeaterLink.Json.Writer
import HeaterLink.Poller.Basic
import HeaterLink.Poller.Run
import HeaterLink.Poller.Timeline
import HeaterLink.Proofs.BigEndian
import HeaterLink.Proofs.Json.Numerals
import HeaterLink.Proofs.ModularPower
import HeaterLink.Record.Basic
import HeaterLink.Record.ErrorHolder
import HeaterLink.Record.Heater
import HeaterLink.Record.Login
import HeaterLink.Record.Zone
import HeaterLink.Registry
import HeaterLink.Signing.Der
import HeaterLink.Signing.Key
import HeaterLink.Signing.KeyText
import HeaterLink.Signing.Modular
import HeaterLink.Signing.Nonce
import HeaterLink.Signing.Packing
import HeaterLink.Signing.Signature
import HeaterLink.Signing.Verification
import HeaterLink.Temperature
import HeaterLink.Text.Base64
import HeaterLink.Text.Blank
import HeaterLink.Text.Decimal
import HeaterLink.Text.Hex
import HeaterLink.Text.Quoted
import HeaterLink.Text.Shown
import HeaterLink.Text.Utf8
import HeaterLink.Timestamp
import HeaterLink.Proofs.Json.Strings
import HeaterLink.Proofs.Json.RoundTrip
import HeaterLink.Proofs.Record.RoundTrip
import HeaterLink.Proofs.Envelope.RoundTrip
import HeaterLink.Proofs.Envelope.Resolution
import HeaterLink.Proofs.Poller.Step
import HeaterLink.Proofs.Poller.Turns
import HeaterLink.Proofs.Poller.LiveJob
import HeaterLink.Proofs.Poller.Cadence
import HeaterLink.Proofs.Account.Interval
import HeaterLink.Proofs.Poller.Stopping
import HeaterLink.Proofs.Poller.FanOut
import HeaterLink.Proofs.ModularInverse
import HeaterLink.Proofs.Signing.Der
import HeaterLink.Proofs.Signing.KeyText
import HeaterLink.Proofs.Signing.Verification
import HeaterLink.Proofs.Account.Connection
import HeaterLink.Proofs.Account.SignIn
import HeaterLink.Proofs.Json.Tokens
import HeaterLink.Proofs.Json.Locality
import HeaterLink.Proofs.Json.Written
import HeaterLink.Proofs.Envelope.Listing
import HeaterLink.Proofs.Envelope.Members
import HeaterLink.Proofs.Binary64
import HeaterLink.Proofs.Envelope.Integers
import HeaterLink.Proofs.Account.Recipients
import HeaterLink.Proofs.Text
import HeaterLink.Proofs.Form
import HeaterLink.Proofs.Http
import HeaterLink.Proofs.Signing.Packing
import HeaterLink.Proofs.Device.Command
import HeaterLink.Proofs.Cloud.Calls
import HeaterLink.Proofs.Signing.KeyReading
import HeaterLink.Proofs.Signing.Search
import HeaterLink.Proofs.Account.Login
import HeaterLink.Proofs.Account.Secrets
import HeaterLink.Proofs.Grouping.Stable
import HeaterLink.Proofs.Binary64.Nearest
import HeaterLink.Proofs.Temperature
import HeaterLink.Proofs.Account.Commands
import HeaterLink.Proofs.Json.Grammar
import HeaterLink.Proofs.Json.Skim
import HeaterLink.Proofs.Account.Settings
import HeaterLink.Proofs.Account.ConfigText
