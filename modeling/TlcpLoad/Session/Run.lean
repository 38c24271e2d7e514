import TlcpLoad.Session.Actor

/-! # Sessions driven through their handle

A session is used through calls on its handle: commands, which wait for the actor's reply,
and status reads, which look at what the actor last published without waiting. This module
runs such calls against a network that refuses every connection with one operating-system
error, on a single-threaded scheduler:

* the actor first runs when the caller first waits; it then posts `create_session`, which
  spawns the create task;
* when the actor runs, it handles every command already sent, in order, before anything else
  runs;
* the create task then tries to connect, is refused at once, and reports the failure to the
  actor, unless a disconnect has stopped it first.

So a call waits at most for one round of this, and a status read sees the state the last
round left. -/

namespace TlcpLoad

/-- A call on a session handle. Calls made together are all sent before any is waited for. -/
inductive Call where
  | command (op : Op)
  | readStatus
  | together (calls : List Call)

/-- What a call came back with. -/
inductive Outcome where
  /-- The reply to a command. -/
  | done (result : Except ClientError Unit)
  /-- A command with no reply yet. -/
  | pending
  /-- A status read: the status and the session id. -/
  | status (status : Status) (id : Option String)
  /-- The outcomes of calls made together, in order. -/
  | together (outcomes : List Outcome)

/-- A call once made: the ticket of each command (and whether it was a disconnect, whose
    `disconnected` failure the handle counts as success), or the status read. -/
inductive Issued where
  | ticket (n : Nat) (isDisconnect : Bool)
  | status (status : Status) (id : Option String)
  | together (calls : List Issued)

/-- Whether a call waits for a reply. -/
def Issued.awaits : Issued → Bool
  | .ticket .. => true
  | .status .. => false
  | .together xs => xs.attach.any fun ⟨x, _⟩ => x.awaits

/-- The reply sent to a ticket, if any. -/
def replyTo (effects : List Effect) (ticket : Nat) : Option (Except ClientError Unit) :=
  effects.findSome? fun
    | .reply t o => if t = ticket then some o else none
    | _ => none

/-- What a made call came back with, given the effects so far. -/
def Issued.outcome (effects : List Effect) : Issued → Outcome
  | .ticket t isDisconnect =>
    match replyTo effects t with
    | some (.error .disconnected) =>
      if isDisconnect then .done (.ok ()) else .done (.error .disconnected)
    | some o => .done o
    | none => .pending
  | .status s id => .status s id
  | .together xs => .together (xs.attach.map fun ⟨x, _⟩ => x.outcome effects)

/-- One call and whether the caller then waits for the session to go quiet. -/
structure Action where
  call : Call
  settle : Bool := true

/-- A session driven through its handle in a network that refuses every connection. -/
structure Run where
  machine : Machine
  /-- The error every connection attempt fails with. -/
  refusal : OsError
  /-- Whether the actor has run. -/
  started : Bool := false
  /-- Whether the create task has been spawned but has not run. -/
  createQueued : Bool := false
  /-- Commands sent and not yet handled, oldest first. -/
  inbox : List Command := []
  lastTicket : Nat := 0

namespace Run

/-- Lets everything run until nothing is left to do: the actor starts if it has not, handles
    the commands sent, and then the create task fails if it is still wanted. -/
def quiesce (r : Run) : Run :=
  let r := if r.started then r
    else { r with machine := r.machine.connect, started := true, createQueued := true }
  let r := { r with machine := r.inbox.foldl Machine.handleCommand r.machine, inbox := [] }
  if r.createQueued then
    let r := { r with createQueued := false }
    if r.machine.actor.createTask then
      { r with machine := r.machine.handleSignal (.failed (.io r.refusal)) }
    else r
  else r

/-- Sends a command to the actor, returning its ticket. -/
def send (r : Run) (op : Op) : Run × Nat :=
  let ticket := r.lastTicket + 1
  ({ r with inbox := r.inbox ++ [⟨op, ticket⟩], lastTicket := ticket }, ticket)

mutual

/-- Makes a call: sends its commands and reads the status now. -/
def issue (r : Run) : Call → Run × Issued
  | .command op =>
    let (r, t) := r.send op
    (r, .ticket t (match op with | .disconnect => true | _ => false))
  | .readStatus => (r, .status r.machine.status r.machine.shownId)
  | .together calls =>
    let (r, xs) := issueAll r calls
    (r, .together xs)

/-- Makes calls together, in order. -/
def issueAll (r : Run) : List Call → Run × List Issued
  | [] => (r, [])
  | c :: cs =>
    let (r, x) := issue r c
    let (r, xs) := issueAll r cs
    (r, x :: xs)

end

/-- Performs one action: makes the call, lets the session run while the caller waits (for a
    reply, or for quiet), and reads the outcome. -/
def perform (r : Run) (a : Action) : Run × Outcome :=
  let (r, issued) := r.issue a.call
  let r := if a.settle || issued.awaits then r.quiesce else r
  (r, issued.outcome r.machine.effects)

/-- Performs actions in order. -/
def performAll (r : Run) : List Action → Run × List Outcome
  | [] => (r, [])
  | a :: as =>
    let (r, o) := r.perform a
    let (r, os) := r.performAll as
    (r, o :: os)

end Run

/-- A finished use of a session: the outcome of each action, the effects in order, the client
    context as the session left it, and the status and id a handle reads at the end. -/
structure Report where
  outcomes : List Outcome
  effects : List Effect
  ctx : Context
  status : Status
  id : Option String

/-- The statistics at the end. -/
def Report.stats (r : Report) : Stats :=
  r.ctx.stats

/-- The totals a subscription listener last heard of, if it heard of any. -/
def Report.totals (r : Report) (listener : Nat) : Option (Int × Int) :=
  r.effects.foldl (fun acc e => match e with
    | .subscribed l items fields => if l = listener then some (items, fields) else acc
    | _ => acc) none

/-- Starts a session, waits for quiet unless told not to, performs the actions, and waits for
    quiet again. -/
def runSession (params : SessionParams) (ctx : Context) (refusal : OsError)
    (settleAfterConnect : Bool) (actions : List Action) : Report :=
  let r : Run := { machine := Machine.init params ctx, refusal }
  let r := if settleAfterConnect then r.quiesce else r
  let (r, outcomes) := r.performAll actions
  let r := r.quiesce
  { outcomes, effects := r.machine.effects, ctx := r.machine.ctx,
    status := r.machine.status, id := r.machine.shownId }

end TlcpLoad
