import TlcpLoad.Proofs.Session.Steps

/-! # What the actor holds follows its phase

The actor's fields move with its phase (`Actor.Coherent`): the binding connection is held
exactly while binding, the stream exactly while bound, the create task exactly while the session
lives; binds wait only while the session is being created, operations only until the stream is
bound, and a subscription exists only from the bound phase on. No clause survives a step on its
own: `bind` needs the stream and the subscription absent, `onBound` needs the binding present
and the binds gone, and so on, so the six are carried together.

The connections held are the one `bind` opened (`Tracked`), and `bind` opens at most one per
session, so the step that ends a session closes exactly that connection. Nothing else closes
one, so every connection a session holds is open (`holdsOpen_run`). -/

namespace TlcpLoad

/-! ## The invariant -/

/-- The actor's fields agree with its phase. -/
structure Actor.Coherent (a : Actor) : Prop where
  /-- The binding connection is held exactly while binding. -/
  binding : a.binding.isSome ↔ a.phase = .binding
  /-- The stream exactly while bound. -/
  stream : a.stream.isSome ↔ a.phase = .bound
  /-- The create task exactly while the session lives. -/
  createTask : a.createTask = true ↔ a.phase ≠ .disconnected
  /-- Binds wait only while the session is being created. -/
  bindRequests : a.bindRequests ≠ [] → a.phase = .connecting
  /-- Operations wait only until the stream is bound. -/
  pending : a.pending ≠ [] →
    a.phase = .connecting ∨ a.phase = .connected ∨ a.phase = .binding
  /-- A subscription exists only from the bound phase on. -/
  subscription : a.subscription.isSome → a.phase = .bound ∨ a.phase = .disconnected

namespace Actor

theorem coherent_shutDown (a : Actor) : a.shutDown.Coherent where
  binding := by simp [shutDown]
  stream := by simp [shutDown]
  createTask := by simp [shutDown]
  bindRequests := by simp [shutDown]
  pending := by simp [shutDown]
  subscription := fun _ => .inr rfl

/-- Parking a bind while connecting. -/
theorem Coherent.parkBind {a : Actor} (h : a.Coherent) (hp : a.phase = .connecting) (t : Nat) :
    ({ a with bindRequests := a.bindRequests ++ [t] } : Actor).Coherent :=
  { h with bindRequests := fun _ => hp }

/-- Parking an operation before the stream is bound. -/
theorem Coherent.park {a : Actor} (h : a.Coherent)
    (hp : a.phase = .connecting ∨ a.phase = .connected ∨ a.phase = .binding)
    (p : Deferred × Nat) :
    ({ a with pending := a.pending ++ [p] } : Actor).Coherent :=
  { h with pending := fun _ => hp }

/-- `bind` from the connected phase: nothing but the new binding connection is held. -/
theorem Coherent.bind {a : Actor} (h : a.Coherent) (hp : a.phase = .connected)
    (conn : Connection) :
    ({ a with phase := .binding, binding := some conn } : Actor).Coherent where
  binding := by simp
  stream := by simpa [hp] using h.stream
  createTask := by simpa [hp] using h.createTask
  bindRequests := fun hb => absurd (h.bindRequests hb) (by simp [hp])
  pending := fun _ => .inr (.inr rfl)
  subscription := fun hs => absurd (h.subscription hs) (by simp [hp])

/-- The session was created and no bind was asked for. -/
theorem Coherent.connected {a : Actor} (h : a.Coherent) (hp : a.phase = .connecting)
    (hb : a.bindRequests = []) (id : String) (control : PoolKey) :
    ({ a with phase := .connected, id, control } : Actor).Coherent where
  binding := by simpa [hp] using h.binding
  stream := by simpa [hp] using h.stream
  createTask := by simpa [hp] using h.createTask
  bindRequests := fun hne => absurd hb hne
  pending := fun _ => .inr (.inl rfl)
  subscription := fun hs => absurd (h.subscription hs) (by simp [hp])

/-- The session was created and the binds asked for meanwhile ran. -/
theorem Coherent.connectedBinding {a : Actor} (h : a.Coherent) (hp : a.phase = .connecting)
    (id : String) (control : PoolKey) (conn : Connection) :
    ({ a with phase := .binding, id, control, binding := some conn, bindRequests := [] } :
      Actor).Coherent where
  binding := by simp
  stream := by simpa [hp] using h.stream
  createTask := by simpa [hp] using h.createTask
  bindRequests := fun hne => absurd rfl hne
  pending := fun _ => .inr (.inr rfl)
  subscription := fun hs => absurd (h.subscription hs) (by simp [hp])

/-- The bind was acknowledged: the stream replaced the binding, and the waiting operations ran. -/
theorem Coherent.bound {a : Actor} (h : a.Coherent) (hp : a.phase = .binding)
    {stream : Option Connection}
    (hs : stream.map Connection.target = a.binding.map Connection.target)
    (sub : Option ActiveSubscription) :
    ({ a with phase := .bound, binding := none, stream, pending := [], subscription := sub } :
      Actor).Coherent where
  binding := by simp
  stream := by
    have hb := h.binding.2 hp
    simp only [iff_true]
    rw [← Option.isSome_map (f := Connection.target), hs, Option.isSome_map]
    exact hb
  createTask := by simpa [hp] using h.createTask
  bindRequests := fun hb => absurd (h.bindRequests hb) (by simp [hp])
  pending := fun hne => absurd rfl hne
  subscription := fun _ => .inl rfl

/-- The writer's end keeps which connections are held. -/
theorem Coherent.stopWriter {a : Actor} (h : a.Coherent) :
    ({ a with binding := a.binding.map Connection.stopWriter,
              stream := a.stream.map Connection.stopWriter } : Actor).Coherent :=
  { h with binding := by simpa using h.binding, stream := by simpa using h.stream }

/-- An operation run on the bound stream keeps a stream there. -/
theorem Coherent.execute {a : Actor} (h : a.Coherent) (hp : a.phase = .bound)
    {stream : Option Connection}
    (hs : stream.map Connection.target = a.stream.map Connection.target)
    (sub : Option ActiveSubscription) :
    ({ a with stream, subscription := sub } : Actor).Coherent where
  binding := h.binding
  stream := by
    rw [← h.stream]
    simp only
    rw [← Option.isSome_map (f := Connection.target), hs, Option.isSome_map]
  createTask := h.createTask
  bindRequests := h.bindRequests
  pending := h.pending
  subscription := fun _ => .inl hp

end Actor

namespace Machine

/-! ## Every step keeps it -/

theorem coherent_disconnect {m : Machine} (h : m.actor.Coherent) : m.disconnect.actor.Coherent := by
  by_cases hd : m.actor.phase = .disconnected
  · rwa [disconnect_of_disconnected hd]
  · rw [disconnect_of_live hd]
    exact Actor.coherent_shutDown _

theorem coherent_commandStep {m m' : Machine} {cmd : Command} (h : m.actor.Coherent)
    (hs : CommandStep m cmd m') : m'.actor.Coherent := by
  cases hs with
  | disconnect t => exact coherent_disconnect h
  | bind t hp => exact h.bind hp _
  | alreadyBinding t _ => exact h
  | parkBind t hp => exact h.parkBind hp t
  | refuseBind t _ => exact h
  | execute op t hp =>
    obtain ⟨stream, sub, ctx, hx, hs⟩ := execute_eq m op
    simp only [reply, emit, hx]
    exact h.execute hp hs sub
  | park op t hp => exact h.park hp (op, t)
  | refuse op t _ => exact h

theorem coherent_signalStep {m m' : Machine} (h : m.actor.Coherent) (hs : SignalStep m m') :
    m'.actor.Coherent := by
  cases hs with
  | calm hc => rwa [hc.actor]
  | ends he =>
    obtain ⟨m₀, code, message, -, rfl⟩ := he
    rw [terminate_eq]
    exact Actor.coherent_shutDown _
  | connected sessionId link hp =>
    obtain ⟨control, ctx, heq⟩ := onConnected_eq m sessionId link
    rw [heq]
    dsimp only
    split
    · exact h.connected hp (by assumption) sessionId control
    · exact h.connectedBinding hp sessionId control _
  | bind hp => exact h.bind hp _
  | bound hp =>
    obtain ⟨stream, sub, ctx, outs, heq, hs, -⟩ := onBound_eq hp
    rw [heq]
    exact h.bound hp hs sub

/-- One turn of the loop keeps the actor coherent. -/
theorem coherent_step {m : Machine} (h : m.actor.Coherent) (i : Input) :
    (m.step i).actor.Coherent := by
  cases i with
  | command cmd => exact coherent_commandStep h (handleCommand_step m cmd)
  | signal s =>
    by_cases hd : m.actor.phase = .disconnected
    · rwa [step, handleSignal_of_disconnected hd]
    · exact coherent_signalStep h (handleSignal_step hd s)
  | handlesDropped => exact coherent_disconnect h
  | writerStopped => exact h.stopWriter

theorem coherent_started (params : SessionParams) (ctx : Context) :
    (started params ctx).actor.Coherent := by
  rw [started_eq]
  exact ⟨by simp, by simp, by simp, by simp, by simp, by simp⟩

/-- Every state a session reaches is coherent. -/
theorem coherent_run (params : SessionParams) (ctx : Context) (inputs : List Input) :
    ((started params ctx).run inputs).actor.Coherent :=
  run_induction (P := fun m => m.actor.Coherent) (coherent_started params ctx)
    (fun _ i h => coherent_step h i) inputs

/-! ## The connection `bind` opened -/

/-- The connections a live actor holds are the one `bind` opened, if it opened one; and it
    opened at most one. -/
structure Tracked (m : Machine) : Prop where
  held : m.actor.phase ≠ .disconnected →
    m.actor.heldTargets = m.effects.filterMap Effect.bindTarget?
  once : (m.effects.filterMap Effect.bindTarget?).length ≤ 1

/-- Before `bind` the actor holds no connection. -/
theorem heldTargets_of_unbound {a : Actor} (h : a.Coherent)
    (hp : a.phase = .connecting ∨ a.phase = .connected) : a.heldTargets = [] := by
  have hb : a.binding = none := by
    rw [← Option.not_isSome_iff_eq_none, h.binding]
    rcases hp with hp | hp <;> simp [hp]
  have hs : a.stream = none := by
    rw [← Option.not_isSome_iff_eq_none, h.stream]
    rcases hp with hp | hp <;> simp [hp]
  simp [Actor.heldTargets, hb, hs]

/-- A step that opens nothing and keeps the held connections keeps `Tracked`. -/
theorem Tracked.of_append {m m' : Machine} (ht : Tracked m) {q : List Effect}
    (he : m'.effects = m.effects ++ q) (hq : q.filterMap Effect.bindTarget? = [])
    (hheld : m'.actor.phase ≠ .disconnected →
      m.actor.phase ≠ .disconnected ∧ m'.actor.heldTargets = m.actor.heldTargets) :
    Tracked m' := by
  have hbinds :
      m'.effects.filterMap Effect.bindTarget? = m.effects.filterMap Effect.bindTarget? := by
    rw [he, List.filterMap_append, hq, List.append_nil]
  refine ⟨fun hlive => ?_, hbinds ▸ ht.once⟩
  obtain ⟨hlive₀, hsame⟩ := hheld hlive
  rw [hsame, hbinds]
  exact ht.held hlive₀

theorem Tracked.reply {m : Machine} (ht : Tracked m) (t : Nat) (o : Except ClientError Unit) :
    Tracked (m.reply t o) :=
  ht.of_append (q := [.reply t o]) rfl rfl fun hlive => ⟨hlive, rfl⟩

/-- `bind` opens the first and only connection of the session. -/
theorem Tracked.bind {m : Machine} (hc : m.actor.Coherent) (ht : Tracked m)
    (hp : m.actor.phase = .connected) : Tracked m.bind := by
  have hnone := heldTargets_of_unbound hc (.inr hp)
  have hbinds : m.effects.filterMap Effect.bindTarget? = [] := by
    rw [← ht.held (by simp [hp]), hnone]
  have hs : m.actor.stream = none := by
    rw [← Option.not_isSome_iff_eq_none, hc.stream, hp]
    simp
  rw [bind_eq]
  constructor
  · intro _
    simp [Actor.heldTargets, List.filterMap_append, hbinds, Effect.bindTarget?, hs]
  · simp [List.filterMap_append, hbinds, Effect.bindTarget?]

/-- Ending a session, by request or by failure, opens nothing. -/
theorem Tracked.shutDown {m m' : Machine} (ht : Tracked m) (pre post : List Effect)
    (hpre : pre.filterMap Effect.bindTarget? = []) (hpost : post.filterMap Effect.bindTarget? = [])
    (he : m'.effects = m.effects ++ (pre ++ m.actor.shutdownEffects ++ post))
    (hd : m'.actor.phase = .disconnected) : Tracked m' :=
  ht.of_append he
    (by simp [List.filterMap_append, hpre, hpost, Actor.shutdownEffects_bindTarget?])
    (fun hlive => absurd hd hlive)

theorem tracked_disconnect {m : Machine} (ht : Tracked m) : Tracked m.disconnect := by
  by_cases hd : m.actor.phase = .disconnected
  · rwa [disconnect_of_disconnected hd]
  · rw [disconnect_of_live hd]
    exact ht.shutDown [.log .info ("[" ++ m.actor.id ++ "] " ++ "Disconnecting")]
      [.status .disconnected] rfl rfl (by simp) rfl

theorem tracked_commandStep {m m' : Machine} {cmd : Command} (hc : m.actor.Coherent)
    (ht : Tracked m) (hs : CommandStep m cmd m') : Tracked m' := by
  cases hs with
  | disconnect t => exact (tracked_disconnect ht).reply t _
  | bind t hp => exact (ht.bind hc hp).reply t _
  | alreadyBinding t _ => exact ht.reply t _
  | parkBind t _ => exact ht.of_append (q := []) (by simp) rfl fun hlive => ⟨hlive, rfl⟩
  | refuseBind t _ => exact ht.reply t _
  | execute op t hp =>
    obtain ⟨stream, sub, ctx, hx, hs⟩ := execute_eq m op
    refine ht.of_append (q := [.reply t (m.execute op).1]) (by simp [reply, emit, hx]) rfl ?_
    intro hlive
    refine ⟨by simpa [reply, emit, hx] using hlive, ?_⟩
    simp only [reply, emit, hx, Actor.heldTargets, List.map_append, ← Option.toList_map, hs]
  | park op t _ => exact ht.of_append (q := []) (by simp) rfl fun hlive => ⟨hlive, rfl⟩
  | refuse op t _ => exact ht.reply t _

theorem tracked_signalStep {m m' : Machine} (hc : m.actor.Coherent) (ht : Tracked m)
    (hs : SignalStep m m') : Tracked m' := by
  cases hs with
  | calm hcalm =>
    obtain ⟨ctx, q, hq, rfl⟩ := hcalm
    exact ht.of_append rfl (Effect.filterMap_eq_nil_of_unseen Effect.bindTarget?_of_isQuiet hq)
      fun hlive => ⟨hlive, rfl⟩
  | ends he =>
    obtain ⟨m₀, code, message, ⟨ctx, q, hq, rfl⟩, rfl⟩ := he
    rw [terminate_eq]
    exact ht.shutDown q [.status .disconnected, .serverError code message]
      (Effect.filterMap_eq_nil_of_unseen Effect.bindTarget?_of_isQuiet hq) rfl (by simp) rfl
  | connected sessionId link hp =>
    have hnone := heldTargets_of_unbound hc (.inl hp)
    have hbinds : m.effects.filterMap Effect.bindTarget? = [] := by
      rw [← ht.held (by simp [hp]), hnone]
    obtain ⟨control, ctx, heq⟩ := onConnected_eq m sessionId link
    rw [heq]
    dsimp only
    split
    · -- no bind waited: nothing is opened
      exact ht.of_append (q := [.status .streamSensing]) rfl rfl
        fun _ => ⟨by simp [hp], rfl⟩
    · -- the binds that waited open the connection
      have hs : m.actor.stream = none := by
        rw [← Option.not_isSome_iff_eq_none, hc.stream, hp]
        simp
      constructor
      · intro _
        simp [bind_eq, Actor.heldTargets, List.filterMap_append, List.filterMap_cons, hbinds,
          Effect.bindTarget?, Function.comp_def, hs]
      · simp [bind_eq, List.filterMap_append, List.filterMap_cons, hbinds, Effect.bindTarget?,
          Function.comp_def]
  | bind hp => exact ht.bind hc hp
  | bound hp =>
    obtain ⟨stream, sub, ctx, outs, heq, hs, -⟩ := onBound_eq hp
    have hs₀ : m.actor.stream = none := by
      rw [← Option.not_isSome_iff_eq_none, hc.stream, hp]
      simp
    rw [heq]
    refine ht.of_append rfl ?_ fun _ => ⟨by simp [hp], ?_⟩
    · rw [List.filterMap_cons, Effect.filterMap_zipWith_reply (fun _ _ => rfl)]
      rfl
    · simp only [Actor.heldTargets, List.map_append, ← Option.toList_map, hs, hs₀]
      simp

/-- One turn of the loop keeps `Tracked`. -/
theorem tracked_step {m : Machine} (hc : m.actor.Coherent) (ht : Tracked m) (i : Input) :
    Tracked (m.step i) := by
  cases i with
  | command cmd => exact tracked_commandStep hc ht (handleCommand_step m cmd)
  | signal s =>
    by_cases hd : m.actor.phase = .disconnected
    · rwa [step, handleSignal_of_disconnected hd]
    · exact tracked_signalStep hc ht (handleSignal_step hd s)
  | handlesDropped => exact tracked_disconnect ht
  | writerStopped =>
    exact ht.of_append (q := []) (List.append_nil _).symm rfl
      fun hlive => ⟨hlive, heldTargets_stopWriter m⟩

theorem tracked_run (params : SessionParams) (ctx : Context) (inputs : List Input) :
    Tracked ((started params ctx).run inputs) := by
  have hboth := run_induction (P := fun m => m.actor.Coherent ∧ Tracked m)
    ⟨coherent_started params ctx, ?_⟩
    (fun _ i h => ⟨coherent_step h.1 i, tracked_step h.1 h.2 i⟩)
    inputs
  · exact hboth.2
  · rw [started_eq]
    exact ⟨fun _ => by simp [Actor.heldTargets, Effect.bindTarget?, List.filterMap_cons],
      by simp [Effect.bindTarget?, List.filterMap_cons]⟩

/-- The connections closed by a step that shuts the actor down between other effects. -/
theorem closeTargets_of_shutdown {m m' : Machine} (pre post : List Effect)
    (hpre : pre.filterMap Effect.closeTarget? = [])
    (hpost : post.filterMap Effect.closeTarget? = [])
    (he : m'.effects = m.effects ++ (pre ++ m.actor.shutdownEffects ++ post)) :
    (m'.effects.drop m.effects.length).filterMap Effect.closeTarget? = m.actor.heldTargets := by
  rw [he, List.drop_left]
  simp [List.filterMap_append, hpre, hpost, Actor.shutdownEffects_closeTarget?]

/-- The step that ends a live session closes exactly the connection `bind` opened, if any. -/
theorem closes_bound_connection {m : Machine} (ht : Tracked m)
    (hlive : m.actor.phase ≠ .disconnected) (i : Input)
    (hd : (m.step i).actor.phase = .disconnected) :
    ((m.step i).effects.drop m.effects.length).filterMap Effect.closeTarget? =
      m.effects.filterMap Effect.bindTarget? := by
  rw [← ht.held hlive]
  cases i with
  | command cmd =>
    have hs := handleCommand_step m cmd
    simp only [step] at hd ⊢
    generalize m.handleCommand cmd = m' at hs hd ⊢
    cases hs with
    | disconnect t =>
      rw [disconnect_of_live hlive]
      exact closeTargets_of_shutdown [.log .info ("[" ++ m.actor.id ++ "] " ++ "Disconnecting")]
        [.status .disconnected, .reply t (.ok ())] rfl rfl (by simp [reply, emit])
    | bind t hp => simp [bind_eq, reply, emit] at hd
    | alreadyBinding t hp => rcases hp with hp | hp <;> simp [reply, emit, hp] at hd
    | parkBind t hp => simp [hp] at hd
    | refuseBind t hp => exact absurd hp hlive
    | execute op t hp =>
      obtain ⟨stream, sub, ctx, hx, -⟩ := execute_eq m op
      simp [reply, emit, hx, hp] at hd
    | park op t hp => rcases hp with hp | hp | hp <;> simp [hp] at hd
    | refuse op t hp => exact absurd hp hlive
  | signal s =>
    have hs := handleSignal_step hlive s
    simp only [step] at hd ⊢
    generalize m.handleSignal s = m' at hs hd ⊢
    cases hs with
    | calm hcalm => exact absurd (hcalm.actor ▸ hd) hlive
    | ends he =>
      obtain ⟨m₀, code, message, ⟨ctx, q, hq, rfl⟩, rfl⟩ := he
      rw [terminate_eq]
      exact closeTargets_of_shutdown q [.status .disconnected, .serverError code message]
        (Effect.filterMap_eq_nil_of_unseen Effect.closeTarget?_of_isQuiet hq) rfl (by simp)
    | connected sessionId link hp =>
      obtain ⟨control, ctx, heq⟩ := onConnected_eq m sessionId link
      rw [heq] at hd
      dsimp only at hd
      split at hd <;> simp [bind_eq] at hd
    | bind hp => simp [bind_eq] at hd
    | bound hp =>
      obtain ⟨stream, sub, ctx, outs, heq, -, -⟩ := onBound_eq hp
      simp [heq] at hd
  | handlesDropped =>
    simp only [step, close]
    rw [disconnect_of_live hlive]
    exact closeTargets_of_shutdown [.log .info ("[" ++ m.actor.id ++ "] " ++ "Disconnecting")]
      [.status .disconnected] rfl rfl (by simp)
  | writerStopped => exact absurd hd hlive

end Machine

/-! ## The connections held are open

Only `shutdown` closes a connection, and it lets go of what it closes; sending, speeding up and
the writer's end leave a link as closed as it was. So a session never holds a closed
connection. -/

/-- Every connection the actor holds is open. -/
structure Actor.HoldsOpen (a : Actor) : Prop where
  binding : ∀ c, a.binding = some c → c.link.closed = false
  stream : ∀ c, a.stream = some c → c.link.closed = false

/-- A connection held in place of an open one, with a link as closed as that one's, is open. -/
theorem open_of_map_closed {o o' : Option Connection}
    (h : ∀ c, o = some c → c.link.closed = false)
    (hm : o'.map (·.link.closed) = o.map (·.link.closed)) :
    ∀ c, o' = some c → c.link.closed = false := by
  intro c hc
  cases o with
  | none => simp [hc] at hm
  | some c₀ =>
    simp only [hc, Option.map_some, Option.some.injEq] at hm
    rw [hm]
    exact h c₀ rfl

theorem Actor.holdsOpen_shutDown (a : Actor) : a.shutDown.HoldsOpen :=
  ⟨fun c hc => by simp [shutDown] at hc, fun c hc => by simp [shutDown] at hc⟩

namespace Machine

/-- Running an operation keeps the stream's link as closed as it was: a send leaves the link
    alone, and a speed-up sets only its own flag. -/
theorem execute_closed (m : Machine) (op : Deferred) :
    (m.execute op).2.actor.stream.map (·.link.closed) = m.actor.stream.map (·.link.closed) := by
  unfold execute
  cases hs : m.actor.stream with
  | none => simp [hs]
  | some conn =>
    cases op with
    | subscribe sub listener =>
      dsimp only
      unfold subscribe
      split
      · simp [hs]
      · dsimp only [Context.nextSubId, Context.nextReqId, bump]
        split
        · simp [hs]
        · rename_i conn' hsend
          obtain ⟨-, -, rfl⟩ := Connection.send_eq_ok hsend
          rfl
    | sendMessage text =>
      dsimp only [Context.nextReqId]
      split
      · simp [hs]
      · rename_i conn' hsend
        obtain ⟨-, -, rfl⟩ := Connection.send_eq_ok hsend
        rfl
    | speedUp => rfl

theorem runPending_closed (m : Machine) (ops : List (Deferred × Nat)) :
    (m.runPending ops).actor.stream.map (·.link.closed) = m.actor.stream.map (·.link.closed) := by
  induction ops generalizing m with
  | nil => rfl
  | cons op ops ih =>
    obtain ⟨op, ticket⟩ := op
    have hx := execute_closed m op
    cases h : m.execute op with
    | mk outcome m₁ =>
      rw [h] at hx
      simp only [runPending, h]
      rw [ih]
      exact hx

/-- The bind acknowledged: the stream is the binding connection, as closed as it was. -/
theorem onBound_closed {m : Machine} (h : m.actor.phase = .binding) :
    m.onBound.actor.stream.map (·.link.closed) = m.actor.binding.map (·.link.closed) := by
  simp only [onBound, h, ne_eq, not_true_eq_false, if_false]
  rw [runPending_closed]
  rfl

section HoldsOpen

variable {m : Machine} (h : m.actor.HoldsOpen)
include h

theorem holdsOpen_disconnect : m.disconnect.actor.HoldsOpen := by
  by_cases hd : m.actor.phase = .disconnected
  · rwa [disconnect_of_disconnected hd]
  · rw [disconnect_of_live hd]
    exact Actor.holdsOpen_shutDown _

/-- `bind` holds a fresh connection, and it is open. -/
theorem holdsOpen_bind : m.bind.actor.HoldsOpen where
  binding c hc := by
    rw [bind_eq] at hc
    cases hc
    rfl
  stream := h.stream

theorem holdsOpen_execute (op : Deferred) : (m.execute op).2.actor.HoldsOpen := by
  obtain ⟨stream, sub, ctx, hx, -⟩ := execute_eq m op
  refine ⟨fun c hc => h.binding c ?_, open_of_map_closed h.stream (execute_closed m op)⟩
  rw [hx] at hc
  exact hc

theorem holdsOpen_stopWriter : m.stopWriter.actor.HoldsOpen :=
  ⟨open_of_map_closed h.binding (by simp [stopWriter, Option.map_map, Function.comp_def]),
    open_of_map_closed h.stream (by simp [stopWriter, Option.map_map, Function.comp_def])⟩

theorem holdsOpen_commandStep {m' : Machine} {cmd : Command} (hs : CommandStep m cmd m') :
    m'.actor.HoldsOpen := by
  cases hs with
  | disconnect t => exact holdsOpen_disconnect h
  | bind t _ => exact holdsOpen_bind h
  | alreadyBinding t _ | refuseBind t _ | refuse op t _ => exact h
  | parkBind t _ | park op t _ => exact ⟨h.binding, h.stream⟩
  | execute op t _ => exact holdsOpen_execute h op

theorem holdsOpen_signalStep {m' : Machine} (hs : SignalStep m m') : m'.actor.HoldsOpen := by
  cases hs with
  | calm hc => rwa [hc.actor]
  | ends he =>
    obtain ⟨m₀, code, message, -, rfl⟩ := he
    rw [terminate_eq]
    exact Actor.holdsOpen_shutDown _
  | connected sessionId link hp =>
    obtain ⟨control, ctx, heq⟩ := onConnected_eq m sessionId link
    rw [heq]
    dsimp only
    -- the creation keeps the connections held, or opens the bind connection
    split
    · exact ⟨h.binding, h.stream⟩
    · refine ⟨fun c hc => ?_, h.stream⟩
      simp only [bind_eq, Option.some.injEq] at hc
      rw [← hc]
  | bind _ => exact holdsOpen_bind h
  | bound hp =>
    obtain ⟨stream, sub, ctx, outs, heq, -, -⟩ := onBound_eq hp
    refine ⟨fun c hc => ?_, open_of_map_closed h.binding (onBound_closed hp)⟩
    rw [heq] at hc
    cases hc

theorem holdsOpen_step (i : Input) : (m.step i).actor.HoldsOpen := by
  cases i with
  | command cmd => exact holdsOpen_commandStep h (handleCommand_step m cmd)
  | signal s =>
    by_cases hd : m.actor.phase = .disconnected
    · rwa [step, handleSignal_of_disconnected hd]
    · exact holdsOpen_signalStep h (handleSignal_step hd s)
  | handlesDropped => exact holdsOpen_disconnect h
  | writerStopped => exact holdsOpen_stopWriter h

end HoldsOpen

/-- A session never holds a closed connection. -/
theorem holdsOpen_run (params : SessionParams) (ctx : Context) (inputs : List Input) :
    ((started params ctx).run inputs).actor.HoldsOpen :=
  run_induction (P := fun m => m.actor.HoldsOpen)
    ⟨fun c hc => by simp [started_eq] at hc, fun c hc => by simp [started_eq] at hc⟩
    (fun _ i h => holdsOpen_step h i) inputs

/-! ## Every reachable state -/

/-- Every state a session reaches, and every step from it, keeps what the actor holds in line
    with its phase: the binding connection exactly while binding, the stream exactly while
    bound, the create task exactly while the session lives, parked binds only while the session
    is being created, parked operations only until the stream is bound, and a subscription only
    from the bound phase on. An operation therefore always runs on a stream that is there:
    commands run one only when bound, and the bind acknowledgement runs the parked ones on the
    binding connection, which is there while binding (running one keeps a stream, see
    `execute_eq`). `bind` opens at most one connection per session, and the step that ends the
    session closes exactly that one. -/
theorem actor_follows_phase (params : SessionParams) (ctx : Context) (inputs : List Input)
    (i : Input) :
    let m := (started params ctx).run inputs
    m.actor.Coherent ∧
    (m.actor.phase = .bound → ∃ conn, m.actor.stream = some conn) ∧
    (m.actor.phase = .binding → ∃ conn, m.actor.binding = some conn) ∧
    (m.effects.filterMap Effect.bindTarget?).length ≤ 1 ∧
    (m.actor.phase ≠ .disconnected → (m.step i).actor.phase = .disconnected →
      ((m.step i).effects.drop m.effects.length).filterMap Effect.closeTarget? =
        m.effects.filterMap Effect.bindTarget?) := by
  intro m
  have hc := coherent_run params ctx inputs
  have ht := tracked_run params ctx inputs
  refine ⟨hc, fun hp => ?_, fun hp => ?_, ht.once,
    fun hlive hd => closes_bound_connection ht hlive i hd⟩
  · exact Option.isSome_iff_exists.1 (hc.stream.2 hp)
  · exact Option.isSome_iff_exists.1 (hc.binding.2 hp)

end Machine

end TlcpLoad
