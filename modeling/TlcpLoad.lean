import TlcpLoad.Text.Utf8
import TlcpLoad.Text.Blank
import TlcpLoad.Text.Unprintable
import TlcpLoad.Text.Literal
import TlcpLoad.Decimal.Numeral
import TlcpLoad.Decimal.Shortest
import TlcpLoad.Decimal.Text
import TlcpLoad.Json.Value
import TlcpLoad.Json.Read
import TlcpLoad.Json.Write
import TlcpLoad.Wire.Error
import TlcpLoad.Wire.Frame
import TlcpLoad.Wire.Field
import TlcpLoad.Wire.Event
import TlcpLoad.Subscription.Names
import TlcpLoad.Subscription.Basic
import TlcpLoad.Wire.Request
import TlcpLoad.Net.Cookie
import TlcpLoad.Net.Rotation
import TlcpLoad.Client.Error
import TlcpLoad.Net.PoolKey
import TlcpLoad.Net.Pool
import TlcpLoad.Digest.Sha1
import TlcpLoad.Text.Base64
import TlcpLoad.Net.WebSocket
import TlcpLoad.Load.Items
import TlcpLoad.Stats
import TlcpLoad.Config.Schema
import TlcpLoad.Config.Basic
import TlcpLoad.Client.Options
import TlcpLoad.Config.Check
import TlcpLoad.Net.Uri
import TlcpLoad.Session.Basic
import TlcpLoad.Session.Actor
import TlcpLoad.Session.Inbound
import TlcpLoad.Session.Run
import TlcpLoad.Load.Test
import TlcpLoad.Main
import TlcpLoad.Proofs.Text.Utf8
import TlcpLoad.Proofs.Decimal.Numeral
import TlcpLoad.Proofs.Wire.FieldCodec
import TlcpLoad.Proofs.Wire.FieldGrammar
import TlcpLoad.Proofs.Wire.EventDecoding
import TlcpLoad.Proofs.Wire.RequestText
import TlcpLoad.Proofs.FrameAssembly
import TlcpLoad.Proofs.Session.Steps
import TlcpLoad.Proofs.Session.Coherence
import TlcpLoad.Proofs.Session.Replies
import TlcpLoad.Proofs.Session.Lifecycle
import TlcpLoad.Proofs.Session.Counters
import TlcpLoad.Proofs.Session.Fleet
import TlcpLoad.Proofs.Session.Frames
import TlcpLoad.Proofs.Session.Subscribing
import TlcpLoad.Proofs.Session.Binding
import TlcpLoad.Proofs.Config.Check
import TlcpLoad.Proofs.Net.Rotation
import TlcpLoad.Proofs.Config.Decoding
import TlcpLoad.Proofs.Net.WebSocketFrame
import TlcpLoad.Proofs.Net.CookieJar
import TlcpLoad.Proofs.Net.Pool
import TlcpLoad.Proofs.Session.SpeedUp
import TlcpLoad.Proofs.Subscription.Names
import TlcpLoad.Proofs.Stats.Delays
import TlcpLoad.Proofs.Net.Handshake
