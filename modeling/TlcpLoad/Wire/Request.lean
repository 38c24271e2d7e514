import TlcpLoad.Wire.Field
import TlcpLoad.Subscription.Basic

/-! # Requests to the server

The client sends four kinds of request. Each is a list of parameters `name=value` joined by
`&`, where every value that comes from a caller is quoted (`FieldCodec.quote`) so that no `&`
or `=` can appear in it. The same parameters go out in three shapes:

* over HTTP, to the path of the kind, as the body followed by CR LF;
* over a WebSocket, as the kind's name, CR LF, and the parameters;
* in logs, as the kind's name, a space, and the parameters.

A subscription's request id and id are numbers or ids made by the client itself and are
written as they are. -/

namespace TlcpLoad

/-- The version of the protocol spoken. -/
def protocolVersion : String := "TLCP-2.0.0"

/-- The WebSocket subprotocol offered. -/
def wsSubprotocol : String := "TLCP-2.0.0.lightstreamer.com"

/-- The path of the WebSocket endpoint. -/
def wsPath : String := "/lightstreamer"

/-- The client identifier sent on session creation, already quoted. -/
def clientId : String := "mgQkwtwdysogQz2BJ4Ji%20kOj2Bg"

/-- The kinds of request. -/
inductive RequestKind where
  | createSession
  | bindSession
  | control
  | message
  deriving DecidableEq, Repr

/-- The name of a kind, as in paths and WebSocket messages. -/
def RequestKind.name : RequestKind → String
  | .createSession => "create_session"
  | .bindSession => "bind_session"
  | .control => "control"
  | .message => "msg"

/-- The HTTP path that a kind is posted to. -/
def RequestKind.httpPath (k : RequestKind) : String :=
  "/lightstreamer/" ++ k.name ++ ".txt?LS_protocol=" ++ protocolVersion

/-- A request: its kind and its parameter text. -/
structure Request where
  kind : RequestKind
  params : String
  deriving DecidableEq, Repr

namespace Request

/-- Creates a session on an adapter set, optionally with credentials. -/
def createSession (adapterSet : String) (user password : Option String) : Request :=
  let base := "LS_polling=true&LS_cause=new.api&LS_polling_millis=0&LS_idle_millis=0&LS_cid="
    ++ clientId ++ "&LS_adapter_set=" ++ FieldCodec.quote adapterSet
  let withUser := match user with
    | some u => base ++ "&LS_user=" ++ FieldCodec.quote u
    | none => base
  let withPassword := match password with
    | some p => withUser ++ "&LS_password=" ++ FieldCodec.quote p
    | none => withUser
  ⟨.createSession, withPassword⟩

/-- Binds the stream of a session. -/
def bindSession (sessionId : String) : Request :=
  ⟨.bindSession, "LS_cause=loop1&LS_session=" ++ FieldCodec.quote sessionId⟩

/-- Adds a subscription to a session. -/
def subscribe (reqId : Nat) (subId : String) (sub : Subscription) (sessionId : String) :
    Request :=
  let base := "LS_reqId=" ++ Numeral.natText reqId ++ "&LS_op=add&LS_subId=" ++ subId
    ++ "&LS_mode=" ++ sub.mode ++ "&LS_group=" ++ FieldCodec.quote sub.items.joined
    ++ "&LS_schema=" ++ FieldCodec.quote sub.fields.joined
  let adapter := match sub.dataAdapter with
    | some a => "&LS_data_adapter=" ++ FieldCodec.quote a
    | none => ""
  let snapshot := match sub.snapshot with
    | some true => "&LS_snapshot=true"
    | some false => "&LS_snapshot=false"
    | none => ""
  let frequency := match sub.maxFrequency with
    | some f => "&LS_requested_max_frequency=" ++ FieldCodec.quote f
    | none => ""
  let buffer := match sub.bufferSize with
    | some n => "&LS_requested_buffer_size=" ++ Numeral.natText n
    | none => ""
  ⟨.control, base ++ adapter ++ snapshot ++ frequency ++ buffer ++ "&LS_session="
    ++ FieldCodec.quote sessionId⟩

/-- Sends a message in a session. -/
def message (reqId : Nat) (text sessionId : String) : Request :=
  ⟨.message, "LS_reqId=" ++ Numeral.natText reqId ++ "&LS_message=" ++ FieldCodec.quote text
    ++ "&LS_outcome=false&LS_ack=false&LS_session=" ++ FieldCodec.quote sessionId⟩

/-- The body of the request over HTTP. -/
def httpBody (r : Request) : String :=
  r.params ++ "\r\n"

/-- The text of the request over a WebSocket. -/
def wsText (r : Request) : String :=
  r.kind.name ++ "\r\n" ++ r.params

/-- The request as shown in logs. -/
def display (r : Request) : String :=
  r.kind.name ++ " " ++ r.params

end Request

end TlcpLoad
