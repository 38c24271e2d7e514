import TlcpLoad.Net.PoolKey

/-! # Socket pool

Exchanges on plain HTTP reuse their sockets. A socket handed out by `acquire` belongs to its
caller until the caller gives it back with `release` after a completed exchange; stream
connections never give theirs back. The pool keeps the idle sockets of each destination in a
queue, oldest first.

* `release` puts a healthy socket at the end of its key's queue and closes an unhealthy one.
* `acquire` takes idle sockets of the key one at a time (`takeIdle`), the most recently released
  first, or the oldest first when the pool is not last-in-first-out. It closes each one that is
  no longer reusable and hands out the first that is. Only once the key has no idle socket left
  does it open a new one.

Whether an idle socket is still reusable (the peer has neither closed it nor sent anything) is
a probe of the operating system, so `acquire` takes it as a parameter. Sockets are of any type
`σ`; a value of `σ` stands for one socket. -/

namespace TlcpLoad

/-- The idle sockets of a pool, by destination, oldest first. -/
structure SocketPool (σ : Type) where
  /-- Hand out the most recently released socket first. -/
  lifo : Bool := true
  idle : PoolKey → List σ := fun _ => []

/-- What one `acquire` did: the stale sockets it closed, in the order it took them, and the idle
    socket it handed out, or `none` when it opened a new one. -/
structure Acquisition (σ : Type) where
  closed : List σ := []
  reused : Option σ := none
  deriving DecidableEq, Repr

namespace SocketPool

variable {σ : Type}

/-- The number of idle sockets of a key. -/
def idleCount (p : SocketPool σ) (key : PoolKey) : Nat :=
  (p.idle key).length

/-- Replaces the idle sockets of a key. -/
def setIdle (p : SocketPool σ) (key : PoolKey) (queue : List σ) : SocketPool σ :=
  { p with idle := fun k => if k = key then queue else p.idle k }

@[simp] theorem setIdle_idle (p : SocketPool σ) (key k : PoolKey) (queue : List σ) :
    (p.setIdle key queue).idle k = if k = key then queue else p.idle k :=
  rfl

@[simp] theorem setIdle_lifo (p : SocketPool σ) (key : PoolKey) (queue : List σ) :
    (p.setIdle key queue).lifo = p.lifo :=
  rfl

/-- Gives back a socket after a completed exchange: a healthy one joins the end of its key's
    queue, an unhealthy one is closed. -/
def release (p : SocketPool σ) (key : PoolKey) (socket : σ) (healthy : Bool) : SocketPool σ :=
  if healthy then p.setIdle key (p.idle key ++ [socket]) else p

/-- Takes one idle socket of a key off its queue: the newest when last-in-first-out, else the
    oldest. -/
def takeIdle (p : SocketPool σ) (key : PoolKey) : Option (σ × SocketPool σ) :=
  if p.lifo then
    match (p.idle key).getLast? with
    | some s => some (s, p.setIdle key (p.idle key).dropLast)
    | none => none
  else
    match p.idle key with
    | s :: rest => some (s, p.setIdle key rest)
    | [] => none

/-- Taking a socket leaves one idle socket fewer for its key. -/
theorem idleCount_takeIdle {p p' : SocketPool σ} {key : PoolKey} {s : σ}
    (h : p.takeIdle key = some (s, p')) : p'.idleCount key + 1 = p.idleCount key := by
  unfold takeIdle at h
  split at h
  · split at h
    · rename_i s' hlast
      cases h
      have hne : p.idle key ≠ [] := fun hnil => by simp [hnil] at hlast
      simp only [idleCount, setIdle_idle, if_true, List.length_dropLast]
      have := List.length_pos_iff.2 hne
      omega
    · cases h
  · split at h
    · rename_i s' rest hq
      cases h
      simp [idleCount, hq]
    · cases h

/-- Hands out a socket for a key: takes idle sockets until one is reusable, closing the stale
    ones, and opens a new socket only when none is left. -/
def acquire (p : SocketPool σ) (key : PoolKey) (reusable : σ → Bool) :
    Acquisition σ × SocketPool σ :=
  match _htake : p.takeIdle key with
  | some (s, p') =>
    if reusable s then ({ reused := some s }, p')
    else
      let (a, p'') := p'.acquire key reusable
      ({ a with closed := s :: a.closed }, p'')
  | none => ({}, p)
termination_by p.idleCount key
decreasing_by
  -- the socket taken off the queue leaves one idle socket fewer
  have := idleCount_takeIdle _htake
  omega

end SocketPool

end TlcpLoad
