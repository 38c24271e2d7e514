import TlcpLoad.Config.Check
import TlcpLoad.Session.Run
import TlcpLoad.Net.Uri
import TlcpLoad.Decimal.Text

/-! # Load tests

A load test opens the configured number of sessions, one after the other, each subscribing
to its share of the items over the schema `f1 … fN`, keeps them for the configured duration,
and then disconnects them. A tally of new, ended and failed sessions and subscriptions is
logged with the client statistics when the test starts and when it ends.

Sessions run against a network that refuses every connection (`TlcpLoad.Session.Run`), so
each one fails while connecting: its subscription is answered `disconnected`, and the
session is counted as failed through the server-error listener. -/

namespace TlcpLoad

/-- A log line: its level, the part of the program that wrote it, and its text. -/
structure LogRecord where
  level : LogLevel
  target : String
  text : String

/-- A log line as it is printed. -/
def LogRecord.render (r : LogRecord) : String :=
  "[" ++ r.level.label ++ " " ++ r.target ++ "] " ++ r.text

/-- The field names of the load schema: `f1` to `fn`. -/
def fieldSchema (n : Nat) : List String :=
  (List.range n).map fun k => "f" ++ Numeral.natText (k + 1)

namespace ClientConfig

/-- The subscription a load session makes for its items: the configured mode, the schema,
    no snapshot, and the frequency and buffer hints. -/
def subscriptionFor (c : ClientConfig) (items : List String) : Subscription :=
  let sub := ((Subscription.ofMode c.subscriptionMode).withItems items).withFields
    (fieldSchema c.numberOfFields)
  let sub := { sub with snapshot := some false }
  let sub := match c.dataAdapterName with
    | some a => { sub with dataAdapter := some a }
    | none => sub
  if c.unfilteredSubscription then { sub with maxFrequency := some "unfiltered" }
  else
    let sub := match c.resamplingFrequency with
      | some f => if f > 0 then { sub with maxFrequency := some (Decimal.renderFloat .plain f) }
        else sub
      | none => sub
    match c.resamplingBufferSize with
    | some n => if n > 0 then { sub with bufferSize := some n } else sub
    | none => sub

end ClientConfig

/-- What the load test counts between two reports, and in total. -/
structure Tally where
  newSessions : Nat := 0
  terminatedSessions : Nat := 0
  totalSessions : Nat := 0
  newSubscriptions : Nat := 0
  totalSubscriptions : Nat := 0
  failedSessions : Nat := 0
  totalFailedSessions : Nat := 0
  failedSubscriptions : Nat := 0
  totalFailedSubscriptions : Nat := 0

/-- The part of the program that reports the load test. -/
def loadTarget : String := "streamload::driver"

/-- A ratio of two counters with two decimals; 0 over 0 is 0. -/
def ratioText (done pending : UInt64) : String :=
  Decimal.fixedText (if pending = 0 then 0.0 else done.toFloat / pending.toFloat) 2

/-- The statistics as the load test reports them. -/
def statsRecords (s : Stats) : List LogRecord :=
  let n (x : UInt64) := Numeral.natText x.toNat
  [⟨.info, loadTarget, ">>> createPending: " ++ n s.createPending ++ " createDone: " ++
      n s.createDone ++ " % " ++ ratioText s.createDone s.createPending ++ " maxDelay: " ++
      n s.maxCreateDelay⟩,
    ⟨.info, loadTarget, "    bindPending: " ++ n s.bindPending ++ " bindDone: " ++
      n s.bindDone ++ " % " ++ ratioText s.bindDone s.createPending ++ " maxDelay: " ++
      n s.maxBindDelay⟩,
    ⟨.info, loadTarget, "    subPending: " ++ n s.subPending ++ " subDone: " ++
      n s.subDone ++ " % " ++ ratioText s.subDone s.createPending ++ " maxDelay: " ++
      n s.maxSubDelay⟩,
    ⟨.info, loadTarget, "    connErrors: " ++ n s.connErrors ++ " socketErrors: " ++
      n s.socketErrors⟩,
    ⟨.info, loadTarget, "    bytes received: " ++ n s.bytesRead⟩]

namespace Tally

/-- Reports what happened since the last report, moves it into the totals, and reports the
    statistics. -/
def flush (t : Tally) (itemsPerSession : Nat) (stats : Stats) : List LogRecord × Tally :=
  let n := Numeral.natText
  let (r1, t) :=
    if t.newSessions > 0 ∨ t.terminatedSessions > 0 then
      let total := t.totalSessions + t.newSessions - t.terminatedSessions
      ([⟨.info, loadTarget, "New sessions created: " ++ n t.newSessions ++ "; terminated: " ++
          n t.terminatedSessions ++ " (total sessions: " ++ n total ++ ")"⟩],
        { t with totalSessions := total, newSessions := 0, terminatedSessions := 0 })
    else ([], t)
  let (r2, t) :=
    if t.newSubscriptions > 0 then
      let total := t.totalSubscriptions + t.newSubscriptions
      ([⟨.info, loadTarget, "New subscriptions: " ++ n t.newSubscriptions ++
          " (total subscriptions: " ++ n total ++ ") - new items: " ++
          n (t.newSubscriptions * itemsPerSession) ++ " (total items: " ++
          n (total * itemsPerSession) ++ ")"⟩],
        { t with totalSubscriptions := total, newSubscriptions := 0 })
    else ([], t)
  let (r3, t) :=
    if t.failedSessions > 0 then
      let total := t.totalFailedSessions + t.failedSessions
      ([⟨.error, loadTarget, "New failed sessions: " ++ n t.failedSessions ++
          " (total failed sessions: " ++ n total ++ ")"⟩],
        { t with totalFailedSessions := total, failedSessions := 0 })
    else ([], t)
  let (r4, t) :=
    if t.failedSubscriptions > 0 then
      let total := t.totalFailedSubscriptions + t.failedSubscriptions
      ([⟨.error, loadTarget, "New failed subscriptions: " ++ n t.failedSubscriptions ++
          " (total failed subscriptions: " ++ n total ++ ")"⟩],
        { t with totalFailedSubscriptions := total, failedSubscriptions := 0 })
    else ([], t)
  (r1 ++ r2 ++ r3 ++ r4 ++ statsRecords stats, t)

/-- Counts what the listeners of one session heard: a session is new when it starts
    streaming and ended when it is disconnected after that; every server error is a failed
    session, and every subscription error a failed subscription. -/
def observe (t : Tally) (effects : List Effect) : Tally :=
  (effects.foldl (fun (acc : Tally × Bool) e =>
    let (t, streaming) := acc
    match e with
    | .status .httpStreaming | .status .wsStreaming =>
      ({ t with newSessions := t.newSessions + 1 }, true)
    | .status .disconnected =>
      if streaming then ({ t with terminatedSessions := t.terminatedSessions + 1 }, false)
      else (t, streaming)
    | .serverError .. => ({ t with failedSessions := t.failedSessions + 1 }, streaming)
    | .subscribed .. => ({ t with newSubscriptions := t.newSubscriptions + 1 }, streaming)
    | .subscriptionError .. =>
      ({ t with failedSubscriptions := t.failedSubscriptions + 1 }, streaming)
    | _ => (t, streaming)) (t, false)).1

end Tally

/-- A load test in progress. -/
structure LoadTest where
  config : ClientConfig
  transport : Transport
  ctx : Context
  /-- Picks the pool instance of each session. -/
  instances : RotationCounter
  tally : Tally := {}
  refusal : OsError

namespace LoadTest

/-- Prepares a load test for a checked configuration. -/
def create (config : ClientConfig) (refusal : OsError) : Except ClientError LoadTest := do
  let transport ← config.transport
  let options := config.clientOptions
  pure { config, transport, ctx := Context.ofOptions options,
         instances := RotationCounter.ofPeriod options.nInstances, refusal }

/-- The records that open a load test. -/
def opening (t : LoadTest) : List LogRecord :=
  let o := t.ctx.options
  let b (x : Bool) := if x then "true" else "false"
  [⟨.info, "streamload::client", "Client context: ignore_data=" ++ b o.ignoreData ++ " lifo=" ++
      b o.lifo ++ " ports=" ++ Numeral.natText o.nPorts ++ " instances=" ++
      Numeral.natText o.nInstances ++ " raw_socket=" ++ b o.rawSocket⟩,
    ⟨.info, loadTarget, "Starting " ++ Numeral.natText t.config.numberOfSessions ++
      " sessions against " ++ t.config.serverUrl ++ " via " ++ t.transport.name⟩]

/-- Reports the tally and the statistics. -/
def report (t : LoadTest) : List LogRecord × LoadTest :=
  let (records, tally) := t.tally.flush t.config.itemsPerSession t.ctx.stats
  (records, { t with tally })

/-- Connects the next session of the test: it takes the next pool instance in turn, reads the
    server's URL with it, and gets the configured adapter set, credentials and transport. -/
def connect (t : LoadTest) : Except ClientError SessionParams × LoadTest :=
  let (shard, instances) := t.instances.next
  let params := (PoolKey.ofUrl t.config.serverUrl shard).map fun server =>
    { server, adapterSet := t.config.adapterSetName, user := t.config.user,
      password := t.config.password, transport := t.transport }
  (params, { t with instances })

/-- Runs one session with its items: connects (a URL that cannot be read fails the session
    at once) and subscribes. Returns the session's log records. -/
def runSession (t : LoadTest) (items : List String) : List LogRecord × LoadTest :=
  let (params, t) := t.connect
  match params with
  | .error _ => ([], { t with tally := { t.tally with failedSessions := t.tally.failedSessions + 1 } })
  | .ok params =>
    let sub := t.config.subscriptionFor items
    let report := TlcpLoad.runSession params t.ctx t.refusal false
      [⟨.command (.whenBound (.subscribe sub 0)), false⟩]
    let tally := t.tally.observe report.effects
    let tally := match report.outcomes with
      | [.done (.ok ())] => tally
      | _ => { tally with failedSubscriptions := tally.failedSubscriptions + 1 }
    let records := report.effects.filterMap fun
      | .log level text => some ⟨level, "streamload::session", text⟩
      | _ => none
    (records, { t with ctx := report.ctx, tally })

/-- Ends the test: the last report and the closing record. -/
def finish (t : LoadTest) : List LogRecord × Stats :=
  let (records, t) := t.report
  (records ++ [⟨.info, loadTarget, "All sessions terminated. Exiting..."⟩], t.ctx.stats)

end LoadTest

/-- The statistics as a JSON object, in the order of the counters. -/
def Stats.jsonText (s : Stats) : String :=
  let n (x : UInt64) := Numeral.natText x.toNat
  "\x7b\"create_pending\":" ++ n s.createPending ++ ",\"create_done\":" ++ n s.createDone ++
    ",\"bind_pending\":" ++ n s.bindPending ++ ",\"bind_done\":" ++ n s.bindDone ++
    ",\"sub_pending\":" ++ n s.subPending ++ ",\"sub_done\":" ++ n s.subDone ++
    ",\"conn_errors\":" ++ n s.connErrors ++ ",\"socket_errors\":" ++ n s.socketErrors ++
    ",\"bytes_read\":" ++ n s.bytesRead ++ ",\"max_create_delay_ms\":" ++ n s.maxCreateDelay ++
    ",\"max_bind_delay_ms\":" ++ n s.maxBindDelay ++ ",\"max_sub_delay_ms\":" ++
    n s.maxSubDelay ++ "\x7d"

end TlcpLoad
