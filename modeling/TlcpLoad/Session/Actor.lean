import TlcpLoad.Session.Basic
import TlcpLoad.Text.Literal

/-! # The session actor

The steps of a session actor: `start` when it first runs, `handleCommand` for each request
from a handle, `handleSignal` for each notification of the transports, and `close` when the
last handle is gone. Each step is a function of the whole `Machine`, so a run of the actor is
a fold of its inputs. The writer task of a connection runs beside the actor and may end
between two of its turns (`stopWriter`), before the actor hears of it; that is one more input.

The life of a session: `start` posts `create_session` (phase connecting). The CONOK frame on
the create channel makes it connected; the first bind trigger then (a bind command, a LOOP
frame, or the end of the create stream) opens the bind connection (binding), and its CONOK
makes the session bound, at which point the operations that waited for the stream run. Any
failure ends the session: it closes everything, fails every parked reply, reports the
disconnected status and then the error to the server-error listener. An asked-for disconnect
does the same without the error. -/

namespace TlcpLoad

namespace Machine

-- Operations

/-- Starts the session: posts `create_session` to the server. -/
def connect (m : Machine) : Machine :=
  let m := (m.setPhase .connecting).bump .createPending
  let m := m.setStatus .connecting
  let request := Request.createSession m.params.adapterSet m.params.user m.params.password
  { m with actor := { m.actor with createTask := true } }.emit (.createSession m.params.server request)

/-- Opens the bind connection to the control address. -/
def bind (m : Machine) : Machine :=
  let m := (m.setPhase .binding).bump .bindPending
  let request := Request.bindSession m.actor.id
  let conn : Connection := { target := m.actor.control }
  { m with actor := { m.actor with binding := some conn } }.emit (.bindSession m.actor.control request)

/-- Closes every connection and fails whatever was waiting: the create task is stopped, the
    binding and bound connections are closed, and every parked bind and deferred operation
    is answered with `disconnected`, binds first. -/
def shutdown (m : Machine) : Machine :=
  let m := if m.actor.createTask then
      { m with actor := { m.actor with createTask := false } }.emit .abortCreate
    else m
  let conns := m.actor.binding.toList ++ m.actor.stream.toList
  let m := { m with actor := { m.actor with binding := none, stream := none } }
  let m := conns.foldl (fun m c => m.emit (.close c.close)) m
  let binds := m.actor.bindRequests
  let waiting := m.actor.pending
  let m := { m with actor := { m.actor with bindRequests := [], pending := [] } }
  let m := m.replyAll binds (.error .disconnected)
  m.replyAll (waiting.map Prod.snd) (.error .disconnected)

/-- Ends a live session on request, without calling the server-error listener. -/
def disconnect (m : Machine) : Machine :=
  if m.actor.phase ≠ .disconnected then
    (((m.note .info "Disconnecting").setPhase .disconnected).shutdown).setStatus .disconnected
  else m

/-- Ends the session on a failure and tells the server-error listener. -/
def terminate (m : Machine) (code : Int) (message : String) : Machine :=
  (((m.setPhase .disconnected).shutdown).setStatus .disconnected).emit (.serverError code message)

/-- Ends a live session on a connection failure. -/
def onConnectionError (m : Machine) (err : ClientError) : Machine :=
  if m.actor.phase = .disconnected then m
  else ((m.bump .connErrors).note .error err.message).terminate err.code err.message

/-- Ends a live session on an error the server or the stream reported. -/
def onSessionError (m : Machine) (code : Int) (message : String) : Machine :=
  if m.actor.phase = .disconnected then m
  else
    let m := (m.bump .socketErrors).note .error ("Error: " ++ Numeral.intText code ++ " " ++ message)
    m.terminate code message

/-- Sends the subscription on the bound connection. Only one subscription per session is
    allowed. The subscription counts as pending and becomes the active one before it is
    handed to the connection, so a refused send (sped up, closed, or the writer gone) leaves
    both in place. -/
def subscribe (m : Machine) (conn : Connection) (sub : Subscription) (listener : Nat) :
    Except ClientError Unit × Machine :=
  if m.actor.subscription.isSome then
    (.error (.usage "only one subscription per session is supported"), m)
  else
    let m := m.bump .subPending
    let (subId, ctx) := m.ctx.nextSubId
    let (reqId, ctx) := ctx.nextReqId
    let m := { m with ctx }
    let subIdText := Numeral.natText subId
    let request := Request.subscribe reqId subIdText sub m.actor.id
    let active : ActiveSubscription :=
      { subId := subIdText, reqId := Numeral.natText reqId, subscription := sub, listener }
    let m := { m with actor := { m.actor with subscription := some active } }
    match conn.send request with
    | .error e => (.error e, m)
    | .ok conn => (.ok (), { m with actor := { m.actor with stream := some conn } })

/-- Runs an operation on the bound stream. -/
def execute (m : Machine) (op : Deferred) : Except ClientError Unit × Machine :=
  match m.actor.stream with
  | none => (.error .disconnected, m)
  | some conn =>
    match op with
    | .subscribe sub listener => m.subscribe conn sub listener
    | .sendMessage text =>
      let (reqId, ctx) := m.ctx.nextReqId
      let m := { m with ctx }
      match conn.send (Request.message reqId text m.actor.id) with
      | .error e => (.error e, m)
      | .ok conn => (.ok (), { m with actor := { m.actor with stream := some conn } })
    | .speedUp => (.ok (), { m with actor := { m.actor with stream := some conn.speedUp } })

/-- Runs the waiting operations in order, replying to each. -/
def runPending (m : Machine) : List (Deferred × Nat) → Machine
  | [] => m
  | (op, ticket) :: rest =>
    let (outcome, m) := m.execute op
    (m.reply ticket outcome).runPending rest

-- Commands

/-- Handles one command from a handle. Disconnect is answered at once. A bind is answered at
    once except while connecting, when it waits for the session to be created. An operation
    on the stream runs at once when bound, fails when disconnected, and waits otherwise. -/
def handleCommand (m : Machine) (cmd : Command) : Machine :=
  match cmd.op with
  | .disconnect => m.disconnect.reply cmd.ticket (.ok ())
  | .bind =>
    match m.actor.phase with
    | .connected => m.bind.reply cmd.ticket (.ok ())
    | .binding | .bound => m.reply cmd.ticket (.ok ())
    | .connecting =>
      { m with actor := { m.actor with bindRequests := m.actor.bindRequests ++ [cmd.ticket] } }
    | .disconnected => m.reply cmd.ticket (.error .disconnected)
  | .whenBound op =>
    match m.actor.phase with
    | .bound =>
      let (outcome, m) := m.execute op
      m.reply cmd.ticket outcome
    | .disconnected => m.reply cmd.ticket (.error .disconnected)
    | _ => { m with actor := { m.actor with pending := m.actor.pending ++ [(op, cmd.ticket)] } }

/-- The last handle is gone: the session disconnects. -/
def close (m : Machine) : Machine :=
  m.disconnect

/-- The writer task of the session's connection, being bound or bound, has ended; the actor
    has not yet handled the signal that reports it. Until then requests the link lets through
    are refused with `disconnected`. -/
def stopWriter (m : Machine) : Machine :=
  { m with actor := { m.actor with
      binding := m.actor.binding.map Connection.stopWriter
      stream := m.actor.stream.map Connection.stopWriter } }

-- Events from the transports

/-- Whether a subscription id is the active subscription's. -/
def isCurrent (m : Machine) (subId : String) : Bool :=
  match m.actor.subscription with
  | some active => active.subId == subId
  | none => false

/-- The session was created: records its id, picks the bind address (the control link if it
    names another host, at the next rotated port), and runs a bind asked for meanwhile. -/
def onConnected (m : Machine) (sessionId : String) (controlLink : Option String) : Machine :=
  let m := ((m.setPhase .connected).bump .createDone).noteDelay .create
  let m := { m with actor := { m.actor with id := sessionId }, shownId := some sessionId }
  let host := match controlLink with
    | some link => if link ≠ m.params.server.host then link else m.actor.control.host
    | none => m.actor.control.host
  let (port, ports) := m.ctx.ports.portFor host m.params.server.port
  let m := { m with actor := { m.actor with control := { m.actor.control with host, port } },
                    ctx := { m.ctx with ports } }
  let m := m.setStatus .streamSensing
  if m.actor.bindRequests.isEmpty then m
  else
    let m := m.bind
    let binds := m.actor.bindRequests
    { m with actor := { m.actor with bindRequests := [] } }.replyAll binds (.ok ())

/-- The bind was acknowledged: the session is bound and the waiting operations run. -/
def onBound (m : Machine) : Machine :=
  if m.actor.phase ≠ .binding then m
  else
    let m := ((m.setPhase .bound).bump .bindDone).noteDelay .bind
    let m := { m with actor := { m.actor with stream := m.actor.binding, binding := none } }
    let m := m.setStatus (Status.streaming m.params.transport)
    let waiting := m.actor.pending
    { m with actor := { m.actor with pending := [] } }.runPending waiting

/-- The subscription was accepted. -/
def onSubscription (m : Machine) (totalItems totalFields : Int) : Machine :=
  let m := (m.bump .subDone).noteDelay .sub
  match m.actor.subscription with
  | some active => m.emit (.subscribed active.listener totalItems totalFields)
  | none => m

/-- An update of the active subscription, passed on as decoded, even when its number of
    values differs from the schema's number of fields (which is logged). -/
def onUpdate (m : Machine) (item : Nat) (values : List FieldValue) : Machine :=
  match m.actor.subscription with
  | some active =>
    let expected := active.subscription.fields.length
    let m := if values.length ≠ expected then
        m.note .warn ("Update for item " ++ Numeral.natText item ++ " has " ++
          Numeral.natText values.length ++ " values, schema has " ++ Numeral.natText expected ++
          " fields")
      else m
    m.emit (.itemUpdate active.listener item values)
  | none => m

/-- A request failed: the subscription hears of it if it was its request, and the session
    ends with the server's code. -/
def onRequestError (m : Machine) (reqId : String) (code : Int) (message : String) : Machine :=
  let m := match m.actor.subscription with
    | some active =>
      if active.reqId = reqId then m.emit (.subscriptionError active.listener code message) else m
    | none => m
  m.onSessionError code message

/-- Handles a frame of the create stream; gives back an event that does not belong there. -/
def onCreateFrame (m : Machine) (e : Event) : Machine × Option Event :=
  match m.actor.phase, e with
  | .connecting, .sessionOk sessionId _ _ controlLink => (m.onConnected sessionId controlLink, none)
  | .connected, .rebind => (m.bind, none)
  | .binding, .rebind | .bound, .rebind => (m, none)
  | _, .sessionError code message => (m.onSessionError code message, none)
  | _, e => (m, some e)

/-- Handles a frame of the bind stream; gives back an event that does not belong there. -/
def onBindFrame (m : Machine) (e : Event) : Machine × Option Event :=
  match e with
  | .sessionOk .. =>
    if m.actor.phase = .binding then (m.onBound, none) else (m, some e)
  | .subscribeOk subId items fields =>
    if m.isCurrent subId then (m.onSubscription items fields, none) else (m, some e)
  | .update subId item values =>
    if m.isCurrent subId then (m.onUpdate item values, none) else (m, some e)
  | .sessionError code message => (m.onSessionError code message, none)
  | e => (m, some e)

/-- Handles a decoded frame. Frames that could not be read and frames out of place end the
    session with code -1. -/
def handleFrame (m : Machine) (channel : Channel) (e : Event) : Machine :=
  match e with
  | .parseError cause frame =>
    m.onSessionError (-1) (cause.message ++ " (frame: " ++ Literal.quote frame ++ ")")
  | .requestError reqId code message => m.onRequestError reqId code message
  | e =>
    let (m, unexpected) := match channel with
      | .create => m.onCreateFrame e
      | .bind => m.onBindFrame e
      | .control => (m, some e)
    match unexpected with
    | some e =>
      let m := m.note .warn (e.kind ++ " not expected on " ++ channel.label ++ " channel")
      m.onSessionError (-1) "Message not expected"
    | none => m

/-- Handles one notification of the transports. A disconnected session ignores them all. -/
def handleSignal (m : Machine) (s : Signal) : Machine :=
  if m.actor.phase = .disconnected then m
  else match s with
  | .frame channel e => m.handleFrame channel e
  | .bound => m.onBound
  | .subscribed => m.onSubscription (-1) (-1)
  | .closed .create =>
    match m.actor.phase with
    | .connecting => m.onConnectionError (.transport "create stream closed before CONOK")
    | .connected => m.bind
    | _ => m
  | .closed .bind => m.onConnectionError (.transport "stream closed by server")
  | .closed .control => m
  | .failed err => m.onConnectionError err

end Machine

/-- What the actor's loop takes in: a command of a handle, a signal of the transports, or the
    end of the command channel once the last handle is dropped. Between two turns the writer
    task of its connection may also end, ahead of the signal that reports it. -/
inductive Input where
  | command (cmd : Command)
  | signal (s : Signal)
  | handlesDropped
  | writerStopped

namespace Machine

/-- One turn of the actor's loop, or the writer ending between two turns. -/
def step (m : Machine) : Input → Machine
  | .command cmd => m.handleCommand cmd
  | .signal s => m.handleSignal s
  | .handlesDropped => m.close
  | .writerStopped => m.stopWriter

/-- The actor after taking in `inputs`, in order. The loop itself stops once the handles are
    dropped; folding over any list covers its runs and more. -/
def run (m : Machine) (inputs : List Input) : Machine :=
  inputs.foldl step m

/-- A session just started: its actor has run `connect`. -/
def started (params : SessionParams) (ctx : Context) : Machine :=
  (init params ctx).connect

end Machine

end TlcpLoad
