import TlcpLoad.Decimal.Text
import TlcpLoad.Decimal.Numeral

/-! # Load statistics

Sessions count what they start and finish in shared 64-bit counters, which wrap around, and
track the slowest create, bind and subscribe. A delay is only tracked once more than
`warmUpBinds` binds are done, so that cold starts do not count; it is kept in whole
milliseconds, rounded down. A reset sets everything back to zero.

The registry view (`Stats.families`) lists the counters and the three slowest delays as
metric families sorted by name, under the prefix `streamload_`, each value written as a
float. A delay is shown as a signed 64-bit number, so one of 2^63 ms or more shows negative. -/

namespace TlcpLoad

/-- Binds that must be done before delays are tracked. -/
def warmUpBinds : Nat := 200

/-- The counters of the statistics. -/
inductive Counter where
  | createPending
  | createDone
  | bindPending
  | bindDone
  | subPending
  | subDone
  | connErrors
  | socketErrors
  | bytesRead
  deriving DecidableEq, Repr

/-- The stage whose delay is tracked. -/
inductive Stage where
  | create
  | bind
  | sub
  deriving DecidableEq, Repr

/-- The statistics: nine counters and three slowest delays, all 64-bit. -/
structure Stats where
  createPending : UInt64 := 0
  createDone : UInt64 := 0
  bindPending : UInt64 := 0
  bindDone : UInt64 := 0
  subPending : UInt64 := 0
  subDone : UInt64 := 0
  connErrors : UInt64 := 0
  socketErrors : UInt64 := 0
  bytesRead : UInt64 := 0
  maxCreateDelay : UInt64 := 0
  maxBindDelay : UInt64 := 0
  maxSubDelay : UInt64 := 0
  deriving DecidableEq, Repr

namespace Stats

/-- The value of a counter. -/
def get (s : Stats) : Counter → UInt64
  | .createPending => s.createPending
  | .createDone => s.createDone
  | .bindPending => s.bindPending
  | .bindDone => s.bindDone
  | .subPending => s.subPending
  | .subDone => s.subDone
  | .connErrors => s.connErrors
  | .socketErrors => s.socketErrors
  | .bytesRead => s.bytesRead

/-- Adds to a counter, wrapping around at 2^64. -/
def add (s : Stats) (c : Counter) (n : UInt64) : Stats :=
  match c with
  | .createPending => { s with createPending := s.createPending + n }
  | .createDone => { s with createDone := s.createDone + n }
  | .bindPending => { s with bindPending := s.bindPending + n }
  | .bindDone => { s with bindDone := s.bindDone + n }
  | .subPending => { s with subPending := s.subPending + n }
  | .subDone => { s with subDone := s.subDone + n }
  | .connErrors => { s with connErrors := s.connErrors + n }
  | .socketErrors => { s with socketErrors := s.socketErrors + n }
  | .bytesRead => { s with bytesRead := s.bytesRead + n }

/-- Adds one to a counter. -/
def inc (s : Stats) (c : Counter) : Stats :=
  s.add c 1

/-- The slowest delay of a stage. -/
def maxDelay (s : Stats) : Stage → UInt64
  | .create => s.maxCreateDelay
  | .bind => s.maxBindDelay
  | .sub => s.maxSubDelay

/-- Records a delay of a stage, given in microseconds, once the warm-up is over. -/
def notify (s : Stats) (stage : Stage) (micros : Nat) : Stats :=
  if s.bindDone.toNat > warmUpBinds then
    let ms := (micros / 1000).toUInt64
    match stage with
    | .create => { s with maxCreateDelay := max s.maxCreateDelay ms }
    | .bind => { s with maxBindDelay := max s.maxBindDelay ms }
    | .sub => { s with maxSubDelay := max s.maxSubDelay ms }
  else s

/-- All counters and delays back to zero. -/
def reset (_ : Stats) : Stats := {}

/-- The kind of a metric family. -/
inductive MetricKind where
  | counter
  | gauge
  deriving DecidableEq, Repr

/-- The name of a metric kind. -/
def MetricKind.name : MetricKind → String
  | .counter => "COUNTER"
  | .gauge => "GAUGE"

/-- One metric family of the registry view. -/
structure Family where
  name : String
  help : String
  kind : MetricKind
  value : String
  deriving DecidableEq, Repr

/-- A 64-bit delay read as a signed 64-bit number. -/
def signedValue (x : UInt64) : Int :=
  if x.toNat < Nat.pow 2 63 then x.toNat else (x.toNat : Int) - Int.pow 2 64

/-- The registry view, sorted by name. -/
def families (s : Stats) : List Family :=
  let counter (name help : String) (v : UInt64) : Family :=
    ⟨"streamload_" ++ name, help, .counter,
      Decimal.renderFloat .plain (Float.ofNat v.toNat)⟩
  let gauge (name help : String) (v : UInt64) : Family :=
    ⟨"streamload_" ++ name, help, .gauge,
      Decimal.renderFloat .plain (Float.ofInt (signedValue v))⟩
  [ counter "bind_done" "Session binds completed" s.bindDone,
    counter "bind_pending" "Session binds started" s.bindPending,
    counter "bytes_read" "Stream bytes received" s.bytesRead,
    counter "conn_errors" "Transport level failures" s.connErrors,
    counter "create_done" "Session creations acknowledged" s.createDone,
    counter "create_pending" "Session creations started" s.createPending,
    gauge "max_bind_delay_ms" "Slowest session bind" s.maxBindDelay,
    gauge "max_create_delay_ms" "Slowest session creation" s.maxCreateDelay,
    gauge "max_sub_delay_ms" "Slowest subscription" s.maxSubDelay,
    counter "socket_errors" "Server reported or decode failures" s.socketErrors,
    counter "sub_done" "Subscriptions acknowledged" s.subDone,
    counter "sub_pending" "Subscriptions requested" s.subPending ]

end Stats

end TlcpLoad
