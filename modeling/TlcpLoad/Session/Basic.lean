import TlcpLoad.Wire.Frame
import TlcpLoad.Wire.Event
import TlcpLoad.Wire.Request
import TlcpLoad.Client.Error
import TlcpLoad.Client.Options
import TlcpLoad.Net.PoolKey
import TlcpLoad.Net.Rotation
import TlcpLoad.Stats

/-! # Sessions: vocabulary

A session is driven by one actor, the only writer of its state. It receives commands from
the session's handles (each with a ticket its reply is addressed to) and signals from the
transport tasks, and it acts on the world only through the effects it records: replies,
status changes, the server-error callback, requests issued, connections closed, and
subscription callbacks.

This module holds the actor's types; `TlcpLoad.Session.Actor` holds its steps. -/

namespace TlcpLoad

/-- The status reported to the status-change listener. -/
inductive Status where
  | disconnected
  | connecting
  | streamSensing
  | httpStreaming
  | wsStreaming
  deriving DecidableEq, Repr

/-- The listener's name of a status. -/
def Status.text : Status → String
  | .disconnected => "DISCONNECTED"
  | .connecting => "CONNECTING"
  | .streamSensing => "CONNECTED:STREAM-SENSING"
  | .httpStreaming => "CONNECTED:HTTP-STREAMING"
  | .wsStreaming => "CONNECTED:WS-STREAMING"

/-- The status of a bound stream over a transport. -/
def Status.streaming : Transport → Status
  | .httpStreaming => .httpStreaming
  | .wsStreaming => .wsStreaming

/-- The phase of a session's life. Phases only move forward, and `disconnected` is final once
    left. -/
inductive Phase where
  | disconnected
  | connecting
  | connected
  | binding
  | bound
  deriving DecidableEq, Repr

/-- An operation that needs the bound stream. A subscription carries the number of the
    listener its callbacks go to. -/
inductive Deferred where
  | subscribe (sub : Subscription) (listener : Nat)
  | sendMessage (text : String)
  | speedUp
  deriving Repr

/-- What a session handle asks of the actor. -/
inductive Op where
  | bind
  | disconnect
  | whenBound (op : Deferred)
  deriving Repr

/-- A request from a handle, with the ticket its reply goes to. -/
structure Command where
  op : Op
  ticket : Nat
  deriving Repr

/-- Which request a frame was read in response to. -/
inductive Channel where
  | create
  | bind
  | control
  deriving DecidableEq, Repr

/-- A notification from the transport tasks. -/
inductive Signal where
  /-- A decoded frame of a channel. -/
  | frame (channel : Channel) (event : Event)
  /-- The bind request was written in ignore-data mode; no acknowledgement will be read. -/
  | bound
  /-- The subscription was written in ignore-data mode; no SUBOK will be read. -/
  | subscribed
  /-- The server ended the stream of a channel. -/
  | closed (channel : Channel)
  /-- A transport task failed. -/
  | failed (error : ClientError)

/-- Frame assembly and decoding for the inbound stream of one channel. -/
structure FrameReader where
  channel : Channel
  assembler : Assembler := {}

/-- Takes in a chunk of the stream: every frame it completes is decoded, and each one of a
    known kind is signalled, in order. -/
def FrameReader.feed (r : FrameReader) (chunk : List UInt8) : List Signal × FrameReader :=
  let (frames, a) := (r.assembler.push chunk).take none
  (frames.filterMap fun f => (decodeEvent f).map (.frame r.channel), { r with assembler := a })

/-- The flags a bound connection shares with its tasks. Speeding up is for good: nothing
    clears the flag. -/
structure Link where
  spedUp : Bool := false
  closed : Bool := false
  deriving DecidableEq, Repr

/-- Whether a request may still be sent: not after speeding up, nor after closing. -/
def Link.checkWritable (l : Link) : Except ClientError Unit :=
  if l.spedUp then .error .spedUp
  else if l.closed then .error .disconnected
  else .ok ()

@[simp] theorem Link.checkWritable_of_spedUp {l : Link} (h : l.spedUp = true) :
    l.checkWritable = .error .spedUp := by
  simp [Link.checkWritable, h]

/-- A bound stream connection: where it goes, its link, the requests it has accepted for its
    writer, oldest first, and whether the writer task has ended. The writer ends when an exchange
    fails or its stream is over, and drops its end of the request queue then, ahead of the
    signal that tells the session. -/
structure Connection where
  target : PoolKey
  link : Link := {}
  outbox : List Request := []
  writerStopped : Bool := false

namespace Connection

/-- Hands a request to the writer. The link refuses it first, when sped up or closed; a request
    the link lets through is still refused with `disconnected` when the writer has ended and no
    one takes it off the queue. Messages and control requests are sent the same way. -/
def send (c : Connection) (r : Request) : Except ClientError Connection :=
  match c.link.checkWritable with
  | .error e => .error e
  | .ok () =>
    if c.writerStopped then .error .disconnected
    else .ok { c with outbox := c.outbox ++ [r] }

/-- The writer task has ended. -/
def stopWriter (c : Connection) : Connection :=
  { c with writerStopped := true }

/-- Stops decoding the stream for good. -/
def speedUp (c : Connection) : Connection :=
  { c with link := { c.link with spedUp := true } }

/-- Closes the connection; later sends fail. -/
def close (c : Connection) : Connection :=
  { c with link := { c.link with closed := true } }

@[simp] theorem speedUp_spedUp (c : Connection) : c.speedUp.link.spedUp = true := rfl

@[simp] theorem close_spedUp (c : Connection) : c.close.link.spedUp = c.link.spedUp := rfl

@[simp] theorem close_closed (c : Connection) : c.close.link.closed = true := rfl

@[simp] theorem stopWriter_link (c : Connection) : c.stopWriter.link = c.link := rfl

@[simp] theorem stopWriter_target (c : Connection) : c.stopWriter.target = c.target := rfl

/-- A send succeeds only through a writable link to a running writer, and then adds the request
    at the end of the outbox and changes nothing else. -/
theorem send_eq_ok {c c' : Connection} {r : Request} (h : c.send r = .ok c') :
    c.link.checkWritable = .ok () ∧ c.writerStopped = false ∧
      c' = { c with outbox := c.outbox ++ [r] } := by
  unfold send at h
  split at h
  · cases h
  · rename_i hw
    cases hstop : c.writerStopped
    · rw [hstop, if_neg Bool.false_ne_true] at h
      cases h
      exact ⟨hw, rfl, rfl⟩
    · rw [hstop, if_pos rfl] at h
      cases h

/-- A sped-up connection refuses every request. -/
theorem send_of_spedUp {c : Connection} (h : c.link.spedUp = true) (r : Request) :
    c.send r = .error .spedUp := by
  simp [send, h]

/-- A writable link whose writer has ended refuses every request with `disconnected`. -/
theorem send_of_writerStopped {c : Connection} (hw : c.link.checkWritable = .ok ())
    (h : c.writerStopped = true) (r : Request) : c.send r = .error .disconnected := by
  simp [send, hw, h]

end Connection

/-- The one subscription of a session: its ids and the listener of its callbacks. -/
structure ActiveSubscription where
  subId : String
  reqId : String
  subscription : Subscription
  listener : Nat

/-- What a session is started with. -/
structure SessionParams where
  server : PoolKey
  adapterSet : String
  user : Option String := none
  password : Option String := none
  transport : Transport

/-- The parts of the client context a session reads and updates: its options, the per-host
    port rotation, the statistics, and the last request and subscription ids handed out.

    Request ids are counted per client context. Subscription ids are counted once for the whole
    process, across every context in it; here the context carries that count. A process that
    runs all its sessions with one context, as the load test does, hands out the same ids
    either way; two contexts in one process would each count from 1 here, where they share one
    count. -/
structure Context where
  options : ClientOptions := {}
  ports : PortRotator := ⟨1, []⟩
  stats : Stats := {}
  lastReqId : Nat := 0
  lastSubId : Nat := 0

namespace Context

/-- A fresh context for some options. -/
def ofOptions (options : ClientOptions) : Context :=
  { options, ports := ⟨options.nPorts, []⟩ }

/-- The next request id, counted from 1. -/
def nextReqId (c : Context) : Nat × Context :=
  (c.lastReqId + 1, { c with lastReqId := c.lastReqId + 1 })

/-- The next subscription id, counted from 1 by the process's one counter, which this context
    carries. -/
def nextSubId (c : Context) : Nat × Context :=
  (c.lastSubId + 1, { c with lastSubId := c.lastSubId + 1 })

end Context

/-- How serious a log record is. -/
inductive LogLevel where
  | error
  | warn
  | info
  deriving DecidableEq, Repr

/-- The name of a level, padded to five columns as log lines show it. -/
def LogLevel.label : LogLevel → String
  | .error => "ERROR"
  | .warn => "WARN "
  | .info => "INFO "

/-- The name of a channel in log records. -/
def Channel.label : Channel → String
  | .create => "Create"
  | .bind => "Bind"
  | .control => "Control"

/-- Something the actor did to the world. -/
inductive Effect where
  /-- The reply to the command with this ticket. -/
  | reply (ticket : Nat) (outcome : Except ClientError Unit)
  /-- The status-change listener was called. -/
  | status (status : Status)
  /-- The server-error listener was called. -/
  | serverError (code : Int) (message : String)
  /-- The create task was started with this request. -/
  | createSession (target : PoolKey) (request : Request)
  /-- The create task was stopped. -/
  | abortCreate
  /-- A bind connection was opened with this request. -/
  | bindSession (target : PoolKey) (request : Request)
  /-- A bound connection was closed. -/
  | close (conn : Connection)
  /-- A subscription listener heard of the subscription's acceptance. -/
  | subscribed (listener : Nat) (totalItems totalFields : Int)
  /-- A subscription listener heard of the subscription's failure. -/
  | subscriptionError (listener : Nat) (code : Int) (message : String)
  /-- A subscription listener received an item update. -/
  | itemUpdate (listener : Nat) (item : Nat) (values : List FieldValue)
  /-- A log record. -/
  | log (level : LogLevel) (text : String)

/-- The state of a session actor. -/
structure Actor where
  phase : Phase := .disconnected
  /-- The session id from the server, empty before it. -/
  id : String := ""
  /-- Where binds go: the server, or the control link it redirected to. -/
  control : PoolKey
  /-- Whether the create task is held. -/
  createTask : Bool := false
  /-- The connection being bound. -/
  binding : Option Connection := none
  /-- The bound connection. -/
  stream : Option Connection := none
  /-- Tickets of binds asked for before the session was created. -/
  bindRequests : List Nat := []
  /-- Operations waiting for the bound stream, with their tickets, oldest first. -/
  pending : List (Deferred × Nat) := []
  subscription : Option ActiveSubscription := none

/-- A session: its parameters, its actor, the client context it updates, what its handles can
    read (the last status and the session id), and the effects so far, oldest first. -/
structure Machine where
  params : SessionParams
  actor : Actor
  ctx : Context
  shownStatus : Option Status := none
  shownId : Option String := none
  effects : List Effect := []

namespace Machine

/-- A session that has not run yet. -/
def init (params : SessionParams) (ctx : Context) : Machine :=
  { params, actor := { control := params.server }, ctx }

/-- The status a handle reads: the last one reported, or disconnected before any. -/
def status (m : Machine) : Status :=
  m.shownStatus.getD .disconnected

/-- Records an effect. -/
def emit (m : Machine) (e : Effect) : Machine :=
  { m with effects := m.effects ++ [e] }

/-- Counts one event in the statistics. -/
def bump (m : Machine) (c : Counter) : Machine :=
  { m with ctx := { m.ctx with stats := m.ctx.stats.inc c } }

/-- Reports a stage's delay. The model has no clock, so every delay is zero. -/
def noteDelay (m : Machine) (stage : Stage) : Machine :=
  { m with ctx := { m.ctx with stats := m.ctx.stats.notify stage 0 } }

/-- Makes a status visible to the handles and tells the listener. -/
def setStatus (m : Machine) (s : Status) : Machine :=
  { m with shownStatus := some s }.emit (.status s)

/-- Replies to a ticket. -/
def reply (m : Machine) (ticket : Nat) (outcome : Except ClientError Unit) : Machine :=
  m.emit (.reply ticket outcome)

/-- Replies the same outcome to several tickets, in order. -/
def replyAll (m : Machine) (tickets : List Nat) (outcome : Except ClientError Unit) : Machine :=
  tickets.foldl (fun m t => m.reply t outcome) m

/-- Records a log line about this session, prefixed with its id. -/
def note (m : Machine) (level : LogLevel) (text : String) : Machine :=
  m.emit (.log level ("[" ++ m.actor.id ++ "] " ++ text))

/-- Changes the actor's phase. -/
def setPhase (m : Machine) (p : Phase) : Machine :=
  { m with actor := { m.actor with phase := p } }

end Machine

end TlcpLoad
