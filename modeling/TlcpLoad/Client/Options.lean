/-! # Client options

Settings shared by every session of one client context. -/

namespace TlcpLoad

/-- Settings shared by the sessions of a client context. -/
structure ClientOptions where
  /-- Never decode the bind stream, only count its bytes. -/
  ignoreData : Bool := false
  /-- Hand out the most recently released pooled socket first. -/
  lifo : Bool := true
  /-- Consecutive server ports that binds rotate over. -/
  nPorts : Nat := 1
  /-- Separate socket pools per address that sessions rotate over. -/
  nInstances : Nat := 1
  /-- Bind WebSocket sessions with the hand-written frame writer. -/
  rawSocket : Bool := false
  deriving DecidableEq, Repr

end TlcpLoad
