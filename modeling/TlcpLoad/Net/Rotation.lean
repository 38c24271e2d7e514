/-! # Rotation over instances and ports

A server may listen on several consecutive ports and several instances of the client may
share one address. Sessions are spread over them round robin.

* A `RotationCounter` of period `p` yields `0, 1, …, p - 1, 0, 1, …`; a period of 0 counts as 1.
* A `PortRotator` keeps one counter per host, of period `nPorts`. The port for a host is its
  base port plus the next offset, but never above 65535. -/

namespace TlcpLoad

/-- The highest port number. -/
def maxPort : Nat := 65535

/-- A counter that cycles through `0 … period - 1`. -/
structure RotationCounter where
  period : Nat
  calls : Nat := 0
  deriving DecidableEq, Repr

namespace RotationCounter

/-- A counter of a period; 0 counts as 1. -/
def ofPeriod (period : Nat) : RotationCounter :=
  { period := max period 1 }

/-- The next value and the counter after it. -/
def next (c : RotationCounter) : Nat × RotationCounter :=
  (c.calls % c.period, { c with calls := (c.calls + 1) % Nat.pow 2 64 })

end RotationCounter

/-- Per-host port rotation. -/
structure PortRotator where
  nPorts : Nat
  hosts : List (String × RotationCounter) := []
  deriving DecidableEq, Repr

namespace PortRotator

/-- Replaces the counter of a host. -/
def setCounter (host : String) (c : RotationCounter) :
    List (String × RotationCounter) → List (String × RotationCounter)
  | [] => [(host, c)]
  | (h, old) :: rest => if h = host then (host, c) :: rest else (h, old) :: setCounter host c rest

/-- The port for the next session on a host, from a base port. -/
def portFor (r : PortRotator) (host : String) (base : Nat) : Nat × PortRotator :=
  let c := (r.hosts.lookup host).getD (RotationCounter.ofPeriod r.nPorts)
  let (offset, c') := c.next
  let port := if offset > maxPort then maxPort else min (base + offset) maxPort
  (port, { r with hosts := setCounter host c' r.hosts })

end PortRotator

end TlcpLoad
