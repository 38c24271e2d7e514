import TlcpLoad.Client.Error

/-! # Destinations and transports

A `PoolKey` names where sockets go: host, port, whether TLS is used, and the shard that
spreads sessions over separate pools for the same address. Sessions with equal keys share
pooled sockets.

A session streams either over HTTP or over a WebSocket (`Transport`). -/

namespace TlcpLoad

/-- The destination of pooled sockets. -/
structure PoolKey where
  host : String
  port : Nat
  tls : Bool
  shard : Nat
  deriving DecidableEq, Repr

namespace PoolKey

/-- `host:port`, as in the `Host` header. -/
def authority (k : PoolKey) : String :=
  k.host ++ ":" ++ Numeral.natText k.port

/-- `http[s]://host:port#instance`. -/
def display (k : PoolKey) : String :=
  (if k.tls then "https" else "http") ++ "://" ++ k.authority ++ "#" ++ Numeral.natText k.shard

end PoolKey

/-- How a session's stream travels. -/
inductive Transport where
  | httpStreaming
  | wsStreaming
  deriving DecidableEq, Repr

namespace Transport

/-- The name of a transport. -/
def name : Transport → String
  | .httpStreaming => "HTTP-STREAMING"
  | .wsStreaming => "WS-STREAMING"

/-- The transport of a name: the full names and `HTTP`, `WS`, in this exact case. -/
def ofName (s : String) : Except ClientError Transport :=
  if s = "HTTP-STREAMING" ∨ s = "HTTP" then .ok .httpStreaming
  else if s = "WS-STREAMING" ∨ s = "WS" then .ok .wsStreaming
  else .error (.config ("unknown transport " ++ Literal.quote s))

end Transport

end TlcpLoad
