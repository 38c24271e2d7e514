import TlcpLoad.Wire.Error

/-! # Client failures

Every operation of the client fails with one `ClientError`. Each kind has a fixed text; the
code reported with it is the server's code for a server error and -1 otherwise. -/

namespace TlcpLoad

/-- A failure reported by the operating system: its description and error number. -/
structure OsError where
  description : String
  errno : Nat
  deriving DecidableEq, Repr

/-- The text of an operating-system failure, as `description (os error n)`. -/
def OsError.message (e : OsError) : String :=
  e.description ++ " (os error " ++ Numeral.natText e.errno ++ ")"

/-- No route to the destination network. -/
def OsError.networkUnreachable : OsError :=
  ⟨"Network is unreachable", 101⟩

/-- Why an operation of the client failed. -/
inductive ClientError where
  /-- A socket, TLS, HTTP or WebSocket failure. -/
  | transport (message : String)
  /-- A failure of the operating system. -/
  | io (err : OsError)
  /-- The server refused, with its code. -/
  | server (code : Int) (message : String)
  /-- A frame could not be read. -/
  | decode (cause : DecodeError) (frame : String)
  /-- The session has ended. -/
  | disconnected
  /-- The connection only counts bytes now and sends nothing more. -/
  | spedUp
  /-- A valid call at the wrong moment. -/
  | usage (message : String)
  /-- The configuration is invalid. -/
  | config (message : String)
  /-- The metrics registry failed. -/
  | metrics (message : String)
  deriving DecidableEq, Repr

namespace ClientError

/-- The name of the kind of a failure. -/
def kind : ClientError → String
  | .transport _ => "Transport"
  | .io _ => "Io"
  | .server .. => "Server"
  | .decode .. => "Decode"
  | .disconnected => "Disconnected"
  | .spedUp => "SpedUp"
  | .usage _ => "Usage"
  | .config _ => "Config"
  | .metrics _ => "Metrics"

/-- The text of a failure. -/
def message : ClientError → String
  | .transport m => "transport error: " ++ m
  | .io e => "I/O error: " ++ e.message
  | .server code m => "server error " ++ Numeral.intText code ++ ": " ++ m
  | .decode cause frame => "decode error: " ++ cause.message ++ " (frame: " ++ Literal.quote frame ++ ")"
  | .disconnected => "session disconnected"
  | .spedUp => "connection does not accept protocol requests after speed-up"
  | .usage m => m
  | .config m => "configuration error: " ++ m
  | .metrics m => "metrics registry: " ++ m

/-- The code reported with a failure: the server's for a server error, else -1. -/
def code : ClientError → Int
  | .server c _ => c
  | _ => -1

end ClientError

end TlcpLoad
