import Mathlib.Data.List.Basic
import Mathlib.Data.List.Infix
import TlcpLoad.Session.Actor

/-! # Steps of the session actor

What each step of the actor does to its state and which effects it records, said once so that
the invariants built on it never unfold the actor's functions. The composite operations get
closed forms (`shutdown_eq`, `terminate_eq`, `onConnected_eq`, `onBound_eq`); commands and
signals are sorted by what they can do (`CommandStep`, `SignalStep`); and a run is a fold of
steps, so what every step keeps, a run keeps (`run_induction`). -/

namespace TlcpLoad

/-! ## What an effect tells -/

namespace Effect

/-- The status an effect reports. -/
def status? : Effect → Option Status
  | .status s => some s
  | _ => none

/-- The ticket an effect replies to, with the outcome. -/
def reply? : Effect → Option (Nat × Except ClientError Unit)
  | .reply t o => some (t, o)
  | _ => none

/-- Where an effect started the create task. -/
def created? : Effect → Option PoolKey
  | .createSession target _ => some target
  | _ => none

/-- Where an effect opened the bind connection. -/
def bindTarget? : Effect → Option PoolKey
  | .bindSession target _ => some target
  | _ => none

/-- Where the connection an effect closed went. -/
def closeTarget? : Effect → Option PoolKey
  | .close conn => some conn.target
  | _ => none

/-- The code and message an effect passed to the server-error listener. -/
def serverError? : Effect → Option (Int × String)
  | .serverError code message => some (code, message)
  | _ => none

/-- Log lines and subscription callbacks: effects that answer no handle, report no status and
    open or close nothing. -/
def isQuiet : Effect → Bool
  | .log .. | .subscribed .. | .subscriptionError .. | .itemUpdate .. => true
  | _ => false

/-- Effects all of a kind that a view does not see are invisible to it. -/
theorem filterMap_eq_nil_of_unseen {β : Type} {p : Effect → Bool} {f : Effect → Option β}
    (hf : ∀ e, p e → f e = none) {q : List Effect} (hq : ∀ e ∈ q, p e) :
    q.filterMap f = [] :=
  List.filterMap_eq_nil_iff.2 fun e he => hf e (hq e he)

theorem status?_of_isQuiet : ∀ e : Effect, e.isQuiet → e.status? = none := by
  intro e; cases e <;> simp [isQuiet, status?]

theorem reply?_of_isQuiet : ∀ e : Effect, e.isQuiet → e.reply? = none := by
  intro e; cases e <;> simp [isQuiet, reply?]

theorem created?_of_isQuiet : ∀ e : Effect, e.isQuiet → e.created? = none := by
  intro e; cases e <;> simp [isQuiet, created?]

theorem bindTarget?_of_isQuiet : ∀ e : Effect, e.isQuiet → e.bindTarget? = none := by
  intro e; cases e <;> simp [isQuiet, bindTarget?]

theorem closeTarget?_of_isQuiet : ∀ e : Effect, e.isQuiet → e.closeTarget? = none := by
  intro e; cases e <;> simp [isQuiet, closeTarget?]

theorem serverError?_of_isQuiet : ∀ e : Effect, e.isQuiet → e.serverError? = none := by
  intro e; cases e <;> simp [isQuiet, serverError?]

end Effect

/-! ## Closed forms of the operations -/

/-- An actor shut down: disconnected, holding no task or connection, with nothing parked. -/
def Actor.shutDown (a : Actor) : Actor :=
  { a with phase := .disconnected, createTask := false, binding := none, stream := none,
           bindRequests := [], pending := [] }

/-- What shutting an actor down records: the create task stopped, its connections closed, and
    every parked reply failed, binds first. -/
def Actor.shutdownEffects (a : Actor) : List Effect :=
  (if a.createTask then [.abortCreate] else []) ++
    (a.binding.toList ++ a.stream.toList).map (fun c => .close c.close) ++
    a.bindRequests.map (fun t => .reply t (.error .disconnected)) ++
    a.pending.map (fun p => .reply p.2 (.error .disconnected))

/-- Where the connections an actor holds go: the binding one, then the stream. -/
def Actor.heldTargets (a : Actor) : List PoolKey :=
  (a.binding.toList ++ a.stream.toList).map Connection.target

namespace Actor

theorem shutdownEffects_status? (a : Actor) : a.shutdownEffects.filterMap Effect.status? = [] := by
  simp only [shutdownEffects, List.filterMap_append, List.filterMap_map]
  cases h : a.createTask <;> simp [Function.comp_def, Effect.status?]

theorem shutdownEffects_created? (a : Actor) :
    a.shutdownEffects.filterMap Effect.created? = [] := by
  simp only [shutdownEffects, List.filterMap_append, List.filterMap_map]
  cases h : a.createTask <;> simp [Function.comp_def, Effect.created?]

theorem shutdownEffects_bindTarget? (a : Actor) :
    a.shutdownEffects.filterMap Effect.bindTarget? = [] := by
  simp only [shutdownEffects, List.filterMap_append, List.filterMap_map]
  cases h : a.createTask <;> simp [Function.comp_def, Effect.bindTarget?]

theorem shutdownEffects_serverError? (a : Actor) :
    a.shutdownEffects.filterMap Effect.serverError? = [] := by
  simp only [shutdownEffects, List.filterMap_append, List.filterMap_map]
  cases h : a.createTask <;> simp [Function.comp_def, Effect.serverError?]

/-- Shutting down closes every held connection. -/
theorem shutdownEffects_closeTarget? (a : Actor) :
    a.shutdownEffects.filterMap Effect.closeTarget? = a.heldTargets := by
  simp only [shutdownEffects, List.filterMap_append, List.filterMap_map]
  cases h : a.createTask <;>
    simp [heldTargets, Function.comp_def, Effect.closeTarget?, List.filterMap_cons,
      Connection.close]

/-- Shutting down fails every parked reply, binds first. -/
theorem shutdownEffects_reply? (a : Actor) :
    a.shutdownEffects.filterMap Effect.reply? =
      a.bindRequests.map (·, .error .disconnected) ++
        a.pending.map fun p => (p.2, .error .disconnected) := by
  simp only [shutdownEffects, List.filterMap_append, List.filterMap_map]
  cases h : a.createTask <;> simp [Function.comp_def, Effect.reply?]

end Actor

/-- The replies of `runPending`, one per operation, carry nothing but the reply. -/
theorem Effect.filterMap_zipWith_reply {β : Type} {f : Effect → Option β}
    (hf : ∀ t o, f (.reply t o) = none) (ops : List (Deferred × Nat))
    (outs : List (Except ClientError Unit)) :
    (List.zipWith (fun p o => Effect.reply p.2 o) ops outs).filterMap f = [] := by
  induction ops generalizing outs with
  | nil => simp
  | cons op ops ih =>
    cases outs with
    | nil => simp
    | cons o outs => simp [hf, ih]

namespace Machine

theorem foldl_emit {α : Type} (f : α → Effect) (l : List α) (m : Machine) :
    l.foldl (fun m x => m.emit (f x)) m = { m with effects := m.effects ++ l.map f } := by
  induction l generalizing m with
  | nil => simp
  | cons x l ih =>
    rw [List.foldl_cons, ih]
    simp [emit]

@[simp] theorem reply_actor (m : Machine) (t : Nat) (o : Except ClientError Unit) :
    (m.reply t o).actor = m.actor :=
  rfl

@[simp] theorem reply_shownStatus (m : Machine) (t : Nat) (o : Except ClientError Unit) :
    (m.reply t o).shownStatus = m.shownStatus :=
  rfl

theorem replyAll_eq (m : Machine) (ts : List Nat) (o : Except ClientError Unit) :
    m.replyAll ts o = { m with effects := m.effects ++ ts.map (.reply · o) } :=
  foldl_emit (.reply · o) ts m

theorem connect_eq (m : Machine) : m.connect = { m with
    actor := { m.actor with phase := .connecting, createTask := true }
    ctx := { m.ctx with stats := m.ctx.stats.inc .createPending }
    shownStatus := some .connecting
    effects := m.effects ++ [.status .connecting, .createSession m.params.server
      (Request.createSession m.params.adapterSet m.params.user m.params.password)] } := by
  simp [connect, setPhase, bump, setStatus, emit]

theorem bind_eq (m : Machine) : m.bind = { m with
    actor := { m.actor with phase := .binding, binding := some { target := m.actor.control } }
    ctx := { m.ctx with stats := m.ctx.stats.inc .bindPending }
    effects := m.effects ++ [.bindSession m.actor.control (Request.bindSession m.actor.id)] } :=
  rfl

theorem shutdown_eq (m : Machine) : m.shutdown = { m with
    actor := { m.actor with
      createTask := false, binding := none, stream := none, bindRequests := [], pending := [] }
    effects := m.effects ++ m.actor.shutdownEffects } := by
  unfold shutdown
  simp only [foldl_emit, replyAll_eq]
  cases h : m.actor.createTask <;> simp [h, emit, Actor.shutdownEffects]

/-- A failure ends the session: everything is shut down, the disconnected status is reported,
    and then the server-error listener is called. -/
theorem terminate_eq (m : Machine) (code : Int) (message : String) :
    m.terminate code message = { m with
      actor := m.actor.shutDown
      shownStatus := some .disconnected
      effects := m.effects ++ m.actor.shutdownEffects ++
        [.status .disconnected, .serverError code message] } := by
  simp [terminate, shutdown_eq, setPhase, setStatus, emit, Actor.shutDown,
    Actor.shutdownEffects]

/-- An asked-for disconnect of a live session ends it like a failure, without the
    server-error listener. -/
theorem disconnect_of_live {m : Machine} (h : m.actor.phase ≠ .disconnected) :
    m.disconnect = { m with
      actor := m.actor.shutDown
      shownStatus := some .disconnected
      effects := m.effects ++ .log .info ("[" ++ m.actor.id ++ "] " ++ "Disconnecting") ::
        m.actor.shutdownEffects ++ [.status .disconnected] } := by
  simp [disconnect, h, shutdown_eq, note, setPhase, setStatus, emit, Actor.shutDown,
    Actor.shutdownEffects]

theorem disconnect_of_disconnected {m : Machine} (h : m.actor.phase = .disconnected) :
    m.disconnect = m := by
  simp [disconnect, h]

/-- Running an operation records nothing and changes only the stream connection (neither
    whether there is one nor where it goes), the subscription and the context. -/
theorem execute_eq (m : Machine) (op : Deferred) :
    ∃ (stream : Option Connection) (sub : Option ActiveSubscription) (ctx : Context),
      (m.execute op).2 = { m with actor := { m.actor with stream, subscription := sub }, ctx } ∧
      stream.map Connection.target = m.actor.stream.map Connection.target := by
  unfold execute
  cases hs : m.actor.stream with
  | none => exact ⟨m.actor.stream, m.actor.subscription, m.ctx, rfl, by rw [hs]⟩
  | some conn =>
    cases op with
    | subscribe sub listener =>
      dsimp only
      unfold subscribe
      split
      · exact ⟨m.actor.stream, m.actor.subscription, m.ctx, rfl, by rw [hs]⟩
      · dsimp only [Context.nextSubId, Context.nextReqId, bump]
        split
        · exact ⟨m.actor.stream, _, _, rfl, by rw [hs]⟩
        · rename_i conn' hsend
          obtain ⟨-, -, rfl⟩ := Connection.send_eq_ok hsend
          exact ⟨_, _, _, rfl, rfl⟩
    | sendMessage text =>
      dsimp only [Context.nextReqId]
      split
      · exact ⟨m.actor.stream, m.actor.subscription, _, rfl, by rw [hs]⟩
      · rename_i conn' hsend
        obtain ⟨-, -, rfl⟩ := Connection.send_eq_ok hsend
        exact ⟨_, m.actor.subscription, _, rfl, rfl⟩
    | speedUp => exact ⟨_, m.actor.subscription, m.ctx, rfl, rfl⟩

/-- Running the waiting operations replies to each of their tickets in order, and otherwise
    acts as the operations do. -/
theorem runPending_eq (m : Machine) (ops : List (Deferred × Nat)) :
    ∃ (stream : Option Connection) (sub : Option ActiveSubscription) (ctx : Context)
      (outs : List (Except ClientError Unit)),
      m.runPending ops = { m with
        actor := { m.actor with stream, subscription := sub }, ctx
        effects := m.effects ++ List.zipWith (fun p o => .reply p.2 o) ops outs } ∧
      stream.map Connection.target = m.actor.stream.map Connection.target ∧
      outs.length = ops.length := by
  induction ops generalizing m with
  | nil =>
    exact ⟨m.actor.stream, m.actor.subscription, m.ctx, [], by simp [runPending], rfl, rfl⟩
  | cons op ops ih =>
    obtain ⟨op, ticket⟩ := op
    obtain ⟨s₁, sub₁, ctx₁, h₁, ht₁⟩ := execute_eq m op
    cases hx : m.execute op with
    | mk outcome m₁ =>
      rw [hx] at h₁
      dsimp only at h₁
      obtain ⟨s₂, sub₂, ctx₂, outs, h₂, ht₂, hl⟩ := ih (m₁.reply ticket outcome)
      refine ⟨s₂, sub₂, ctx₂, outcome :: outs, ?_, ?_, by simp [hl]⟩
      · simp only [runPending, hx]
        rw [h₂, h₁]
        simp [reply, emit]
      · rw [ht₂, h₁]
        exact ht₁

/-- The session was created: it records the session id, picks the bind address and reports the
    stream-sensing status; a bind asked for meanwhile then runs, and its callers hear `ok`. -/
theorem onConnected_eq (m : Machine) (sessionId : String) (link : Option String) :
    ∃ (control : PoolKey) (ctx : Context),
      m.onConnected sessionId link =
        let m₁ : Machine := { m with
          actor := { m.actor with phase := .connected, id := sessionId, control }
          ctx, shownId := some sessionId, shownStatus := some .streamSensing
          effects := m.effects ++ [.status .streamSensing] }
        if m.actor.bindRequests = [] then m₁
        else { m₁.bind with
          actor := { m₁.bind.actor with bindRequests := [] }
          effects := m₁.bind.effects ++ m.actor.bindRequests.map (.reply · (.ok ())) } := by
  -- the bind address: the control link when it names another host, at its rotated port
  let host := link.elim m.actor.control.host fun l =>
    if l ≠ m.params.server.host then l else m.actor.control.host
  refine ⟨{ m.actor.control with
      host, port := (m.ctx.ports.portFor host m.params.server.port).1 },
    { m.ctx with stats := (m.ctx.stats.inc .createDone).notify .create 0,
                 ports := (m.ctx.ports.portFor host m.params.server.port).2 }, ?_⟩
  unfold onConnected
  simp only [setPhase, bump, noteDelay, setStatus, emit, replyAll_eq, List.isEmpty_iff]
  cases link <;> split <;> rfl

/-- The bind was acknowledged: the binding connection becomes the stream, the streaming status
    is reported, and the waiting operations run in order, each replied to. -/
theorem onBound_eq {m : Machine} (h : m.actor.phase = .binding) :
    ∃ (stream : Option Connection) (sub : Option ActiveSubscription) (ctx : Context)
      (outs : List (Except ClientError Unit)),
      m.onBound = { m with
        actor := { m.actor with
          phase := .bound, binding := none, stream, pending := [], subscription := sub }
        ctx, shownStatus := some (Status.streaming m.params.transport)
        effects := m.effects ++ .status (Status.streaming m.params.transport) ::
          List.zipWith (fun p o => .reply p.2 o) m.actor.pending outs } ∧
      stream.map Connection.target = m.actor.binding.map Connection.target ∧
      outs.length = m.actor.pending.length := by
  let m₁ : Machine := { m with
    actor := { m.actor with
      phase := .bound, stream := m.actor.binding, binding := none, pending := [] }
    ctx := { m.ctx with stats := (m.ctx.stats.inc .bindDone).notify .bind 0 }
    shownStatus := some (Status.streaming m.params.transport)
    effects := m.effects ++ [.status (Status.streaming m.params.transport)] }
  obtain ⟨stream, sub, ctx, outs, hrun, htarget, hlen⟩ := runPending_eq m₁ m.actor.pending
  refine ⟨stream, sub, ctx, outs, ?_, htarget, hlen⟩
  have hm : m.onBound = m₁.runPending m.actor.pending := by
    simp [onBound, h, setPhase, bump, noteDelay, setStatus, emit, m₁]
  rw [hm, hrun]
  simp [m₁]

theorem onBound_of_ne {m : Machine} (h : m.actor.phase ≠ .binding) : m.onBound = m := by
  simp [onBound, h]

/-- The writer's end marks the connections the session holds, and they go where they went. -/
theorem heldTargets_stopWriter (m : Machine) :
    m.stopWriter.actor.heldTargets = m.actor.heldTargets := by
  simp only [stopWriter, Actor.heldTargets]
  cases m.actor.binding <;> cases m.actor.stream <;> rfl

/-! ## Calm steps and failures -/

/-- `m'` is `m` with other statistics and some quiet effects after its own. -/
def Calm (m m' : Machine) : Prop :=
  ∃ (ctx : Context) (q : List Effect), (∀ e ∈ q, e.isQuiet) ∧
    m' = { m with ctx, effects := m.effects ++ q }

theorem Calm.refl (m : Machine) : Calm m m :=
  ⟨m.ctx, [], by simp, by simp⟩

theorem Calm.trans {m₁ m₂ m₃ : Machine} (h₁ : Calm m₁ m₂) (h₂ : Calm m₂ m₃) :
    Calm m₁ m₃ := by
  obtain ⟨ctx₁, q₁, hq₁, rfl⟩ := h₁
  obtain ⟨ctx₂, q₂, hq₂, rfl⟩ := h₂
  refine ⟨ctx₂, q₁ ++ q₂, fun e he => ?_, by simp⟩
  rcases List.mem_append.1 he with h | h
  · exact hq₁ e h
  · exact hq₂ e h

theorem Calm.actor {m m' : Machine} (h : Calm m m') : m'.actor = m.actor := by
  obtain ⟨ctx, q, -, rfl⟩ := h
  rfl

theorem calm_bump (m : Machine) (c : Counter) : Calm m (m.bump c) :=
  ⟨{ m.ctx with stats := m.ctx.stats.inc c }, [], by simp, by simp [bump]⟩

theorem calm_noteDelay (m : Machine) (stage : Stage) : Calm m (m.noteDelay stage) :=
  ⟨{ m.ctx with stats := m.ctx.stats.notify stage 0 }, [], by simp, by simp [noteDelay]⟩

theorem calm_emit (m : Machine) {e : Effect} (he : e.isQuiet) : Calm m (m.emit e) :=
  ⟨m.ctx, [e], by simpa using he, rfl⟩

theorem calm_note (m : Machine) (level : LogLevel) (text : String) : Calm m (m.note level text) :=
  calm_emit m rfl

/-- A failure after a calm prelude: the session is terminated. -/
def Ends (m m' : Machine) : Prop :=
  ∃ (m₀ : Machine) (code : Int) (message : String),
    Calm m m₀ ∧ m' = m₀.terminate code message

theorem Calm.ends {m₁ m₂ m₃ : Machine} (h₁ : Calm m₁ m₂) (h₂ : Ends m₂ m₃) :
    Ends m₁ m₃ := by
  obtain ⟨m₀, code, message, h₀, rfl⟩ := h₂
  exact ⟨m₀, code, message, h₁.trans h₀, rfl⟩

theorem ends_terminate (m : Machine) (code : Int) (message : String) :
    Ends m (m.terminate code message) :=
  ⟨m, code, message, Calm.refl m, rfl⟩

theorem ends_onSessionError {m : Machine} (h : m.actor.phase ≠ .disconnected) (code : Int)
    (message : String) : Ends m (m.onSessionError code message) := by
  simp only [onSessionError, h, if_false]
  exact ((calm_bump m _).trans (calm_note _ _ _)).ends (ends_terminate _ _ _)

theorem ends_onConnectionError {m : Machine} (h : m.actor.phase ≠ .disconnected)
    (err : ClientError) : Ends m (m.onConnectionError err) := by
  simp only [onConnectionError, h, if_false]
  exact ((calm_bump m _).trans (calm_note _ _ _)).ends (ends_terminate _ _ _)

/-- A request error may first reach the subscription's listener, then ends the session. -/
theorem ends_onRequestError {m : Machine} (h : m.actor.phase ≠ .disconnected) (reqId : String)
    (code : Int) (message : String) : Ends m (m.onRequestError reqId code message) := by
  unfold onRequestError
  -- the listener's callback is quiet and leaves the phase alone
  have hcalm : ∀ m' : Machine, Calm m m' → Ends m (m'.onSessionError code message) :=
    fun m' hc => hc.ends (ends_onSessionError (by rw [hc.actor]; exact h) code message)
  split
  · split
    · exact hcalm _ (calm_emit m rfl)
    · exact hcalm _ (Calm.refl m)
  · exact hcalm _ (Calm.refl m)

theorem calm_onSubscription (m : Machine) (totalItems totalFields : Int) :
    Calm m (m.onSubscription totalItems totalFields) := by
  have hpre := (calm_bump m .subDone).trans (calm_noteDelay _ .sub)
  dsimp only [onSubscription]
  split
  · exact hpre.trans (calm_emit _ rfl)
  · exact hpre

theorem calm_onUpdate (m : Machine) (item : Nat) (values : List FieldValue) :
    Calm m (m.onUpdate item values) := by
  unfold onUpdate
  split
  · -- a mismatch in the number of values is only logged
    dsimp only
    refine Calm.trans ?_ (calm_emit _ rfl)
    split
    · exact calm_note _ _ _
    · exact Calm.refl m
  · exact Calm.refl m

/-! ## What a signal can do -/

/-- What a signal can do to a live session: something calm, a failure, or one of the three
    moves forward (creation, bind, bind acknowledged), each from its own phase. -/
inductive SignalStep (m : Machine) : Machine → Prop where
  | calm {m' : Machine} : Calm m m' → SignalStep m m'
  | ends {m' : Machine} : Ends m m' → SignalStep m m'
  | connected (sessionId : String) (link : Option String) :
      m.actor.phase = .connecting → SignalStep m (m.onConnected sessionId link)
  | bind : m.actor.phase = .connected → SignalStep m m.bind
  | bound : m.actor.phase = .binding → SignalStep m m.onBound

/-- A frame of the create stream either belongs there, and then is handled as a step, or is
    handed back with the session untouched. -/
theorem onCreateFrame_cases {m : Machine} (h : m.actor.phase ≠ .disconnected) (e : Event) :
    (∃ e', m.onCreateFrame e = (m, some e')) ∨
      ∃ m', m.onCreateFrame e = (m', none) ∧ SignalStep m m' := by
  unfold onCreateFrame
  split
  · exact .inr ⟨_, rfl, .connected _ _ (by assumption)⟩
  · exact .inr ⟨_, rfl, .bind (by assumption)⟩
  · exact .inr ⟨_, rfl, .calm (Calm.refl m)⟩
  · exact .inr ⟨_, rfl, .calm (Calm.refl m)⟩
  · exact .inr ⟨_, rfl, .ends (ends_onSessionError h _ _)⟩
  · exact .inl ⟨_, rfl⟩

/-- The same for a frame of the bind stream. -/
theorem onBindFrame_cases {m : Machine} (h : m.actor.phase ≠ .disconnected) (e : Event) :
    (∃ e', m.onBindFrame e = (m, some e')) ∨
      ∃ m', m.onBindFrame e = (m', none) ∧ SignalStep m m' := by
  unfold onBindFrame
  split
  · split
    · exact .inr ⟨_, rfl, .bound (by assumption)⟩
    · exact .inl ⟨_, rfl⟩
  · split
    · exact .inr ⟨_, rfl, .calm (calm_onSubscription m _ _)⟩
    · exact .inl ⟨_, rfl⟩
  · split
    · exact .inr ⟨_, rfl, .calm (calm_onUpdate m _ _)⟩
    · exact .inl ⟨_, rfl⟩
  · exact .inr ⟨_, rfl, .ends (ends_onSessionError h _ _)⟩
  · exact .inl ⟨_, rfl⟩

/-- A frame out of place ends the session. -/
theorem ends_unexpected {m : Machine} (h : m.actor.phase ≠ .disconnected) (text : String) :
    Ends m ((m.note .warn text).onSessionError (-1) "Message not expected") :=
  (calm_note m _ _).ends (ends_onSessionError (by simpa [note, emit] using h) _ _)

theorem handleFrame_step {m : Machine} (h : m.actor.phase ≠ .disconnected) (channel : Channel)
    (e : Event) : SignalStep m (m.handleFrame channel e) := by
  unfold handleFrame
  split
  · exact .ends (ends_onSessionError h _ _)
  · exact .ends (ends_onRequestError h _ _ _)
  · -- an event of a channel: handled there, or handed back and then fatal
    cases channel with
    | create =>
      rcases onCreateFrame_cases h e with ⟨e', he'⟩ | ⟨m', hm', hstep⟩
      · simp only [he']
        exact .ends (ends_unexpected h _)
      · simp only [hm']
        exact hstep
    | bind =>
      rcases onBindFrame_cases h e with ⟨e', he'⟩ | ⟨m', hm', hstep⟩
      · simp only [he']
        exact .ends (ends_unexpected h _)
      · simp only [hm']
        exact hstep
    | control => exact .ends (ends_unexpected h _)

/-- Every signal to a live session is one of the steps of `SignalStep`. -/
theorem handleSignal_step {m : Machine} (h : m.actor.phase ≠ .disconnected) (s : Signal) :
    SignalStep m (m.handleSignal s) := by
  unfold handleSignal
  rw [if_neg h]
  cases s with
  | frame channel e => exact handleFrame_step h channel e
  | bound =>
    by_cases hb : m.actor.phase = .binding
    · exact .bound hb
    · rw [onBound_of_ne hb]
      exact .calm (Calm.refl m)
  | subscribed => exact .calm (calm_onSubscription m _ _)
  | closed channel =>
    cases channel with
    | create =>
      dsimp only
      split
      · exact .ends (ends_onConnectionError h _)
      · exact .bind (by assumption)
      · exact .calm (Calm.refl m)
    | bind => exact .ends (ends_onConnectionError h _)
    | control => exact .calm (Calm.refl m)
  | failed err => exact .ends (ends_onConnectionError h err)

theorem handleSignal_of_disconnected {m : Machine} (h : m.actor.phase = .disconnected)
    (s : Signal) : m.handleSignal s = m := by
  simp [handleSignal, h]

/-! ## What a command can do -/

/-- What a command can do, by the phase it arrives in. -/
inductive CommandStep (m : Machine) : Command → Machine → Prop where
  | disconnect (t : Nat) : CommandStep m ⟨.disconnect, t⟩ (m.disconnect.reply t (.ok ()))
  | bind (t : Nat) : m.actor.phase = .connected →
      CommandStep m ⟨.bind, t⟩ (m.bind.reply t (.ok ()))
  | alreadyBinding (t : Nat) : m.actor.phase = .binding ∨ m.actor.phase = .bound →
      CommandStep m ⟨.bind, t⟩ (m.reply t (.ok ()))
  | parkBind (t : Nat) : m.actor.phase = .connecting →
      CommandStep m ⟨.bind, t⟩
        { m with actor := { m.actor with bindRequests := m.actor.bindRequests ++ [t] } }
  | refuseBind (t : Nat) : m.actor.phase = .disconnected →
      CommandStep m ⟨.bind, t⟩ (m.reply t (.error .disconnected))
  | execute (op : Deferred) (t : Nat) : m.actor.phase = .bound →
      CommandStep m ⟨.whenBound op, t⟩ ((m.execute op).2.reply t (m.execute op).1)
  | park (op : Deferred) (t : Nat) :
      m.actor.phase = .connecting ∨ m.actor.phase = .connected ∨ m.actor.phase = .binding →
      CommandStep m ⟨.whenBound op, t⟩
        { m with actor := { m.actor with pending := m.actor.pending ++ [(op, t)] } }
  | refuse (op : Deferred) (t : Nat) : m.actor.phase = .disconnected →
      CommandStep m ⟨.whenBound op, t⟩ (m.reply t (.error .disconnected))

theorem handleCommand_step (m : Machine) (cmd : Command) :
    CommandStep m cmd (m.handleCommand cmd) := by
  obtain ⟨op, t⟩ := cmd
  cases op with
  | disconnect => exact .disconnect t
  | bind =>
    cases h : m.actor.phase with
    | disconnected =>
      simpa [handleCommand, h] using CommandStep.refuseBind t h
    | connecting =>
      simpa [handleCommand, h] using CommandStep.parkBind t h
    | connected =>
      simpa [handleCommand, h] using CommandStep.bind t h
    | binding =>
      simpa [handleCommand, h] using CommandStep.alreadyBinding t (.inl h)
    | bound =>
      simpa [handleCommand, h] using CommandStep.alreadyBinding t (.inr h)
  | whenBound op =>
    cases h : m.actor.phase with
    | disconnected =>
      simpa [handleCommand, h] using CommandStep.refuse op t h
    | connecting =>
      simpa [handleCommand, h] using CommandStep.park op t (.inl h)
    | connected =>
      simpa [handleCommand, h] using CommandStep.park op t (.inr (.inl h))
    | binding =>
      simpa [handleCommand, h] using CommandStep.park op t (.inr (.inr h))
    | bound =>
      simpa [handleCommand, h] using CommandStep.execute op t h

/-! ## What a step records

A step only adds to the record of effects, so what it did is the record's tail past the
previous state's record. -/

/-- The effects recorded since `m`, for a later state `m'` of the same session. -/
def effectsSince (m' m : Machine) : List Effect :=
  m'.effects.drop m.effects.length

theorem effectsSince_of_eq_append {m m' : Machine} {q : List Effect}
    (h : m'.effects = m.effects ++ q) : m'.effectsSince m = q := by
  simp [effectsSince, h]

theorem eq_append_effectsSince {m m' : Machine} (h : m.effects <+: m'.effects) :
    m'.effects = m.effects ++ m'.effectsSince m :=
  (List.prefix_iff_eq_append.1 h).symm

theorem Calm.extends_effects {m m' : Machine} (h : Calm m m') : m.effects <+: m'.effects := by
  obtain ⟨ctx, q, -, rfl⟩ := h
  exact List.prefix_append _ _

theorem Ends.extends_effects {m m' : Machine} (h : Ends m m') : m.effects <+: m'.effects := by
  obtain ⟨m₀, code, message, hc, rfl⟩ := h
  rw [terminate_eq, List.append_assoc]
  exact hc.extends_effects.trans (List.prefix_append _ _)

theorem disconnect_extends_effects (m : Machine) : m.effects <+: m.disconnect.effects := by
  by_cases hd : m.actor.phase = .disconnected
  · rw [disconnect_of_disconnected hd]
  · rw [disconnect_of_live hd, List.append_assoc]
    exact List.prefix_append _ _

theorem reply_extends_effects {m m' : Machine} (h : m.effects <+: m'.effects) (t : Nat)
    (o : Except ClientError Unit) : m.effects <+: (m'.reply t o).effects :=
  h.trans (List.prefix_append _ _)

theorem CommandStep.extends_effects {m m' : Machine} {cmd : Command} (hs : CommandStep m cmd m') :
    m.effects <+: m'.effects := by
  cases hs with
  | disconnect t => exact reply_extends_effects (disconnect_extends_effects m) _ _
  | bind t _ => exact reply_extends_effects (List.prefix_append _ _) _ _
  | alreadyBinding t _ | refuseBind t _ | refuse op t _ =>
    exact reply_extends_effects (List.prefix_refl _) _ _
  | parkBind t _ | park op t _ => exact List.prefix_refl _
  | execute op t _ =>
    obtain ⟨stream, sub, ctx, hx, -⟩ := execute_eq m op
    exact reply_extends_effects (by rw [hx]) _ _

theorem SignalStep.extends_effects {m m' : Machine} (hs : SignalStep m m') :
    m.effects <+: m'.effects := by
  cases hs with
  | calm hc => exact hc.extends_effects
  | ends he => exact he.extends_effects
  | connected sessionId link _ =>
    obtain ⟨control, ctx, heq⟩ := onConnected_eq m sessionId link
    rw [heq]
    dsimp only
    split
    · exact List.prefix_append _ _
    · simp only [bind_eq, List.append_assoc]
      exact List.prefix_append _ _
  | bind _ => exact List.prefix_append _ _
  | bound hp =>
    obtain ⟨stream, sub, ctx, outs, heq, -, -⟩ := onBound_eq hp
    rw [heq]
    exact List.prefix_append _ _

/-- The session was created: the status turns to stream-sensing, the parked binds, if any, open
    the bind connection and are answered, and the waiting operations stay parked. -/
theorem onConnected_records (m : Machine) (sessionId : String) (link : Option String) :
    let m' := m.onConnected sessionId link
    m'.actor.phase = (if m.actor.bindRequests = [] then .connected else .binding) ∧
    m'.effectsSince m = .status .streamSensing :: (if m.actor.bindRequests = [] then [] else
      .bindSession m'.actor.control (.bindSession sessionId) ::
        m.actor.bindRequests.map (.reply · (.ok ()))) ∧
    m'.actor.bindRequests = [] ∧ m'.actor.pending = m.actor.pending ∧
    m'.shownStatus = some .streamSensing ∧ m'.params = m.params := by
  obtain ⟨control, ctx, heq⟩ := onConnected_eq m sessionId link
  intro m'
  by_cases hb : m.actor.bindRequests = []
  · simp [m', heq, hb, effectsSince]
  · simp [m', heq, hb, bind_eq, effectsSince]

/-- No turn of the loop takes back an effect. -/
theorem step_extends_effects (m : Machine) (i : Input) : m.effects <+: (m.step i).effects := by
  cases i with
  | command cmd => exact (handleCommand_step m cmd).extends_effects
  | signal s =>
    by_cases hd : m.actor.phase = .disconnected
    · rw [step, handleSignal_of_disconnected hd]
    · exact (handleSignal_step hd s).extends_effects
  | handlesDropped => exact disconnect_extends_effects m
  | writerStopped => exact List.prefix_refl _

/-! ## Runs -/

@[simp] theorem run_nil (m : Machine) : m.run [] = m := rfl

@[simp] theorem run_cons (m : Machine) (i : Input) (inputs : List Input) :
    m.run (i :: inputs) = (m.step i).run inputs := rfl

theorem run_append (m : Machine) (inputs more : List Input) :
    m.run (inputs ++ more) = (m.run inputs).run more :=
  List.foldl_append

/-- What holds of a state and survives every step holds all along a run. -/
theorem run_induction {P : Machine → Prop} {m : Machine} (h₀ : P m)
    (hstep : ∀ m i, P m → P (m.step i)) (inputs : List Input) : P (m.run inputs) := by
  induction inputs generalizing m with
  | nil => exact h₀
  | cons i inputs ih => exact ih (hstep m i h₀)

/-- A session just started: connecting, holding the create task, with the connecting status
    reported and `create_session` posted. -/
theorem started_eq (params : SessionParams) (ctx : Context) : started params ctx = {
    params, ctx := { ctx with stats := ctx.stats.inc .createPending }
    actor := { control := params.server, phase := .connecting, createTask := true }
    shownStatus := some .connecting
    effects := [.status .connecting, .createSession params.server
      (Request.createSession params.adapterSet params.user params.password)] } := by
  simp [started, init, connect_eq]

end Machine

end TlcpLoad
