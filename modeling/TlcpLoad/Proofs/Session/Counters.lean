import Mathlib
import TlcpLoad.Proofs.Session.Lifecycle

/-! # What a turn counts

The statistics are counters that all the sessions of a client share. A turn of a session adds
to some of them (`Machine.Bumps`), each handler to its own and only behind the guard of its
phase: a creation done only from connecting, a bind asked for only from connected, a bind done
only from binding, an error only from a live phase.

Five counters say how far sessions got (`Milestone`). A session reaches each at most once, and
the turn that reaches it records it: the create request, the stream-sensing status, the bind
request, the streaming status, the subscription (`Machine.reached`). The two error counters
move in the turn that ends the session, through the session-error handler
(`EndsBySessionError`) or the connection-error handler (`EndsByConnectionError`).
`step_tally` says all of this of every turn. -/

namespace TlcpLoad

/-! ## Counters -/

namespace Stats

theorem get_inc (s : Stats) (c c' : Counter) :
    (s.inc c).get c' = s.get c' + if c' = c then 1 else 0 := by
  cases c <;> cases c' <;> simp [inc, add, get]

@[simp] theorem get_empty (c : Counter) : ({} : Stats).get c = 0 := by
  cases c <;> rfl

theorem get_notify (s : Stats) (stage : Stage) (micros : Nat) (c : Counter) :
    (s.notify stage micros).get c = s.get c := by
  unfold notify
  split
  · cases stage <;> cases c <;> rfl
  · rfl

end Stats

namespace Machine

/-- From `m` to `m'` every counter of the statistics grew by its number of occurrences in `l`. -/
def Bumps (m m' : Machine) (l : List Counter) : Prop :=
  ∀ c, m'.ctx.stats.get c = m.ctx.stats.get c + UInt64.ofNat (l.count c)

theorem Bumps.of_stats {m m' : Machine} (h : m'.ctx.stats = m.ctx.stats) : Bumps m m' [] := by
  intro c
  simp [h]

theorem Bumps.trans {m₁ m₂ m₃ : Machine} {l₁ l₂ : List Counter} (h₁ : Bumps m₁ m₂ l₁)
    (h₂ : Bumps m₂ m₃ l₂) : Bumps m₁ m₃ (l₁ ++ l₂) := by
  intro c
  rw [h₂, h₁, List.count_append, UInt64.ofNat_add, UInt64.add_assoc]

/-- A step whose counters read as one more of `c`. -/
theorem Bumps.of_get_inc {m m' : Machine} {c : Counter}
    (h : ∀ c', m'.ctx.stats.get c' = (m.ctx.stats.inc c).get c') : Bumps m m' [c] := by
  intro c'
  by_cases hc : c' = c
  · subst hc
    simp [h, Stats.get_inc]
  · simp [h, Stats.get_inc, hc, Ne.symm hc]

theorem Bumps.of_inc {m m' : Machine} {c : Counter} (h : m'.ctx.stats = m.ctx.stats.inc c) :
    Bumps m m' [c] :=
  Bumps.of_get_inc fun _ => by rw [h]

theorem Bumps.stats_eq {m₁ m₂ m₃ : Machine} {l : List Counter} (h : Bumps m₁ m₂ l)
    (h' : m₃.ctx.stats = m₂.ctx.stats) : Bumps m₁ m₃ l := by
  simpa using h.trans (Bumps.of_stats h')

theorem bumps_bump (m : Machine) (c : Counter) : Bumps m (m.bump c) [c] :=
  Bumps.of_inc rfl

theorem bumps_noteDelay (m : Machine) (stage : Stage) : Bumps m (m.noteDelay stage) [] := by
  intro c
  simp [noteDelay, Stats.get_notify]

theorem bumps_disconnect (m : Machine) : Bumps m m.disconnect [] := by
  by_cases hd : m.actor.phase = .disconnected
  · exact Bumps.of_stats (by rw [disconnect_of_disconnected hd])
  · exact Bumps.of_stats (by rw [disconnect_of_live hd])

/-- A failure counted and logged, then the end: the failure's counter alone moves. -/
theorem bumps_terminate_after_note (m : Machine) (c : Counter) (level : LogLevel)
    (text : String) (code : Int) (message : String) :
    Bumps m (((m.bump c).note level text).terminate code message) [c] :=
  (bumps_bump m c).stats_eq (by rw [terminate_eq]; rfl)

theorem bumps_onSessionError {m : Machine} (h : m.actor.phase ≠ .disconnected) (code : Int)
    (message : String) : Bumps m (m.onSessionError code message) [.socketErrors] := by
  simp only [onSessionError, h, if_false]
  exact bumps_terminate_after_note m _ _ _ _ _

theorem bumps_onConnectionError {m : Machine} (h : m.actor.phase ≠ .disconnected)
    (err : ClientError) : Bumps m (m.onConnectionError err) [.connErrors] := by
  simp only [onConnectionError, h, if_false]
  exact bumps_terminate_after_note m _ _ _ _ _

theorem bumps_bind (m : Machine) : Bumps m m.bind [.bindPending] :=
  Bumps.of_inc (by rw [bind_eq])

theorem onConnected_stats (m : Machine) (sessionId : String) (link : Option String) :
    (m.onConnected sessionId link).ctx.stats =
      if m.actor.bindRequests = [] then (m.ctx.stats.inc .createDone).notify .create 0
      else ((m.ctx.stats.inc .createDone).notify .create 0).inc .bindPending := by
  unfold onConnected
  simp only [setPhase, bump, noteDelay, setStatus, emit, replyAll_eq, List.isEmpty_iff]
  cases link <;> split <;> rfl

theorem bumps_onConnected (m : Machine) (sessionId : String) (link : Option String) :
    Bumps m (m.onConnected sessionId link)
      (.createDone :: if m.actor.bindRequests = [] then [] else [.bindPending]) := by
  -- the delay noted after the count changes no counter
  have hdone : Bumps m { m with ctx := { m.ctx with
      stats := (m.ctx.stats.inc .createDone).notify .create 0 } } [.createDone] :=
    Bumps.of_get_inc fun c => Stats.get_notify _ _ _ c
  rw [← List.singleton_append]
  by_cases hb : m.actor.bindRequests = []
  · simpa [hb] using hdone.stats_eq (by rw [onConnected_stats, if_pos hb])
  · simp only [hb, if_false]
    exact hdone.trans (Bumps.of_inc (by rw [onConnected_stats, if_neg hb]))

theorem Bumps.congr {m m' : Machine} {l l' : List Counter} (h : Bumps m m' l)
    (hl : ∀ c, l.count c = l'.count c) : Bumps m m' l' := by
  intro c
  rw [h c, hl c]

/-! ## The subscription -/

/-- Whether the session has made its subscription. -/
def subscribed (m : Machine) : Bool :=
  m.actor.subscription.isSome

/-- The counts of a subscription made between `m` and `m'`. -/
def subBumps (m m' : Machine) : List Counter :=
  List.replicate (m'.subscribed.toNat - m.subscribed.toNat) .subPending

theorem count_subBumps (m m' : Machine) (c : Counter) :
    (subBumps m m').count c = if c = .subPending then m'.subscribed.toNat - m.subscribed.toNat
      else 0 := by
  by_cases hc : c = .subPending
  · subst hc
    simp [subBumps]
  · simp [subBumps, List.count_replicate, Ne.symm hc, hc]

/-- A subscription, once made, stays made: the subscriptions made in between make up the
    difference. -/
theorem toNat_subscribed_add {m m' : Machine} (h : m.subscribed → m'.subscribed) :
    m.subscribed.toNat + (m'.subscribed.toNat - m.subscribed.toNat) = m'.subscribed.toNat := by
  cases hm : m.subscribed <;> cases hm' : m'.subscribed <;> simp_all

/-- Counts of subscriptions made in two stretches add up. -/
theorem Bumps.trans_sub {m₁ m₂ m₃ : Machine} (h₁ : Bumps m₁ m₂ (subBumps m₁ m₂))
    (h₂ : Bumps m₂ m₃ (subBumps m₂ m₃)) (hmono₁ : m₁.subscribed → m₂.subscribed)
    (hmono₂ : m₂.subscribed → m₃.subscribed) : Bumps m₁ m₃ (subBumps m₁ m₃) := by
  refine (h₁.trans h₂).congr fun c => ?_
  rw [List.count_append, count_subBumps, count_subBumps, count_subBumps]
  split
  · have h₁₂ := toNat_subscribed_add hmono₁
    have h₂₃ := toNat_subscribed_add hmono₂
    omega
  · rfl

/-- A subscription is counted once, when it is made; a second one is refused. -/
theorem subscribe_counts (m : Machine) (conn : Connection) (sub : Subscription) (listener : Nat) :
    Bumps m (m.subscribe conn sub listener).2 (subBumps m (m.subscribe conn sub listener).2) ∧
      (m.subscribe conn sub listener).2.subscribed = true := by
  unfold subscribe
  split
  · rename_i hs
    exact ⟨Bumps.of_stats rfl |>.congr (by simp [subBumps]), hs⟩
  · rename_i hs
    -- whether or not the connection takes the request, the subscription is made and counted
    have hcount : ∀ m' : Machine, m'.subscribed = true →
        ∀ c, [Counter.subPending].count c = (subBumps m m').count c := by
      intro m' hm' c
      by_cases hc : c = .subPending
      · subst hc
        simp only [subscribed] at hm'
        simp [count_subBumps, subscribed, hs, hm']
      · simp [count_subBumps, hc, Ne.symm hc]
    dsimp only [Context.nextSubId, Context.nextReqId]
    split <;> exact ⟨((bumps_bump m .subPending).stats_eq rfl).congr (hcount _ rfl), rfl⟩

theorem subBumps_of_eq {m m' : Machine} (h : m'.subscribed = m.subscribed) : subBumps m m' = [] := by
  simp [subBumps, h]

theorem execute_counts (m : Machine) (op : Deferred) :
    Bumps m (m.execute op).2 (subBumps m (m.execute op).2) ∧
      (m.subscribed → (m.execute op).2.subscribed) := by
  unfold execute
  cases hs : m.actor.stream with
  | none => exact ⟨(Bumps.of_stats rfl).congr (by simp [subBumps_of_eq]), id⟩
  | some conn =>
    cases op with
    | subscribe sub listener =>
      obtain ⟨hb, hsub⟩ := subscribe_counts m conn sub listener
      exact ⟨hb, fun _ => hsub⟩
    | sendMessage text =>
      dsimp only [Context.nextReqId]
      split <;> exact ⟨(Bumps.of_stats rfl).congr (by simp [subBumps, subscribed]), id⟩
    | speedUp => exact ⟨(Bumps.of_stats rfl).congr (by simp [subBumps, subscribed]), id⟩

theorem runPending_counts (m : Machine) (ops : List (Deferred × Nat)) :
    Bumps m (m.runPending ops) (subBumps m (m.runPending ops)) ∧
      (m.subscribed → (m.runPending ops).subscribed) := by
  induction ops generalizing m with
  | nil => exact ⟨(Bumps.of_stats rfl).congr (by simp [runPending, subBumps_of_eq]), id⟩
  | cons op ops ih =>
    obtain ⟨op, ticket⟩ := op
    obtain ⟨hx, hmono⟩ := execute_counts m op
    -- the reply to the operation changes neither the counters nor the subscription
    obtain ⟨hrest, hmono'⟩ := ih ((m.execute op).2.reply ticket (m.execute op).1)
    simp only [runPending]
    exact ⟨hx.trans_sub hrest hmono hmono', fun h => hmono' (hmono h)⟩

/-- The bind acknowledged is counted, and so is a subscription that was waiting for it. -/
theorem bumps_onBound {m : Machine} (h : m.actor.phase = .binding) :
    Bumps m m.onBound (.bindDone :: subBumps m m.onBound) ∧
      (m.subscribed → m.onBound.subscribed) := by
  let m₁ : Machine := { m with
    actor := { m.actor with
      phase := .bound, stream := m.actor.binding, binding := none, pending := [] }
    ctx := { m.ctx with stats := (m.ctx.stats.inc .bindDone).notify .bind 0 }
    shownStatus := some (Status.streaming m.params.transport)
    effects := m.effects ++ [.status (Status.streaming m.params.transport)] }
  have hm : m.onBound = m₁.runPending m.actor.pending := by
    simp [onBound, h, setPhase, bump, noteDelay, setStatus, emit, m₁]
  have hdone : Bumps m m₁ [.bindDone] := Bumps.of_get_inc fun c => Stats.get_notify _ _ _ c
  obtain ⟨hrun, hmono⟩ := runPending_counts m₁ m.actor.pending
  rw [hm]
  exact ⟨hdone.trans hrun, hmono⟩

/-- A count below the wrap-around is read back as the increment of its counter. -/
theorem Bumps.increment {m m' : Machine} {l : List Counter} (h : Bumps m m' l) (c : Counter)
    (hc : l.count c < Nat.pow 2 64) :
    (m'.ctx.stats.get c - m.ctx.stats.get c).toNat = l.count c := by
  rw [h c, add_sub_cancel_left, UInt64.toNat_ofNat_of_lt' hc]

/-- So two lists of bumps between the same states agree on every counter they bump fewer than
    2^64 times. -/
theorem Bumps.count_eq {m m' : Machine} {l l' : List Counter} (h : Bumps m m' l)
    (h' : Bumps m m' l') (c : Counter) (hl : l.count c < Nat.pow 2 64)
    (hl' : l'.count c < Nat.pow 2 64) : l.count c = l'.count c :=
  (h.increment c hl).symm.trans (h'.increment c hl')

theorem bumps_onSubscription (m : Machine) (totalItems totalFields : Int) :
    Bumps m (m.onSubscription totalItems totalFields) [.subDone] := by
  have hpre : Bumps m ((m.bump .subDone).noteDelay .sub) [.subDone] :=
    ((bumps_bump m .subDone).trans (bumps_noteDelay _ .sub)).congr fun c => by simp
  unfold onSubscription
  dsimp only
  split
  · exact hpre.stats_eq rfl
  · exact hpre

theorem bumps_onUpdate (m : Machine) (item : Nat) (values : List FieldValue) :
    Bumps m (m.onUpdate item values) [] := by
  refine Bumps.of_stats ?_
  unfold onUpdate
  split
  · dsimp only
    split <;> rfl
  · rfl

/-! ## What a signal counts -/

/-- What a signal to a live session counts, by the handler it ends in. -/
inductive SignalCount (m : Machine) : Machine → List Counter → Prop where
  /-- Nothing moves; at most an acknowledged subscription is counted. -/
  | calm {m' : Machine} {l : List Counter} :
      Calm m m' → Bumps m m' l → (∀ c ∈ l, c = .subDone) → SignalCount m m' l
  /-- The session error handler, after log lines and subscription callbacks. -/
  | sessionError (q : List Effect) (code : Int) (message : String) : (∀ e ∈ q, e.isQuiet) →
      SignalCount m ({ m with effects := m.effects ++ q }.onSessionError code message)
        [.socketErrors]
  /-- The connection error handler. -/
  | connectionError (err : ClientError) : SignalCount m (m.onConnectionError err) [.connErrors]
  | connected (sessionId : String) (link : Option String) : m.actor.phase = .connecting →
      SignalCount m (m.onConnected sessionId link)
        (.createDone :: if m.actor.bindRequests = [] then [] else [.bindPending])
  | bind : m.actor.phase = .connected → SignalCount m m.bind [.bindPending]
  | bound : m.actor.phase = .binding → SignalCount m m.onBound (.bindDone :: subBumps m m.onBound)

theorem SignalCount.still (m : Machine) : SignalCount m m [] :=
  .calm (Calm.refl m) (Bumps.of_stats rfl) (by simp)

theorem SignalCount.onSessionError (m : Machine) (code : Int) (message : String) :
    SignalCount m (m.onSessionError code message) [.socketErrors] := by
  simpa using SignalCount.sessionError (m := m) [] code message (by simp)

/-- A frame out of place is logged, then ends the session as a session error. -/
theorem SignalCount.unexpected (m : Machine) (text : String) :
    SignalCount m ((m.note .warn text).onSessionError (-1) "Message not expected")
      [.socketErrors] :=
  .sessionError [.log .warn ("[" ++ m.actor.id ++ "] " ++ text)] _ _ (by simp [Effect.isQuiet])

/-- A frame of the create stream is handed back untouched or counted as a step. -/
theorem onCreateFrame_count (m : Machine) (e : Event) :
    (∃ e', m.onCreateFrame e = (m, some e')) ∨
      ∃ m' l, m.onCreateFrame e = (m', none) ∧ SignalCount m m' l := by
  unfold onCreateFrame
  split
  · exact .inr ⟨_, _, rfl, .connected _ _ (by assumption)⟩
  · exact .inr ⟨_, _, rfl, .bind (by assumption)⟩
  · exact .inr ⟨_, _, rfl, .still m⟩
  · exact .inr ⟨_, _, rfl, .still m⟩
  · exact .inr ⟨_, _, rfl, .onSessionError m _ _⟩
  · exact .inl ⟨_, rfl⟩

theorem onBindFrame_count (m : Machine) (e : Event) :
    (∃ e', m.onBindFrame e = (m, some e')) ∨
      ∃ m' l, m.onBindFrame e = (m', none) ∧ SignalCount m m' l := by
  unfold onBindFrame
  split
  · split
    · exact .inr ⟨_, _, rfl, .bound (by assumption)⟩
    · exact .inl ⟨_, rfl⟩
  · split
    · exact .inr ⟨_, _, rfl, .calm (calm_onSubscription m _ _) (bumps_onSubscription m _ _)
        (by simp)⟩
    · exact .inl ⟨_, rfl⟩
  · split
    · exact .inr ⟨_, _, rfl, .calm (calm_onUpdate m _ _) (bumps_onUpdate m _ _) (by simp)⟩
    · exact .inl ⟨_, rfl⟩
  · exact .inr ⟨_, _, rfl, .onSessionError m _ _⟩
  · exact .inl ⟨_, rfl⟩

theorem handleFrame_count (m : Machine) (channel : Channel) (e : Event) :
    ∃ l, SignalCount m (m.handleFrame channel e) l := by
  unfold handleFrame
  split
  · exact ⟨_, .onSessionError m _ _⟩
  · -- a request error may reach the subscription's listener before it ends the session
    unfold onRequestError
    split
    · split
      · exact ⟨_, .sessionError [.subscriptionError _ _ _] _ _ (by simp [Effect.isQuiet])⟩
      · exact ⟨_, .onSessionError m _ _⟩
    · exact ⟨_, .onSessionError m _ _⟩
  · cases channel with
    | create =>
      rcases onCreateFrame_count m e with ⟨e', he'⟩ | ⟨m', l, hm', hs⟩
      · simp only [he']
        exact ⟨_, .unexpected m _⟩
      · simp only [hm']
        exact ⟨l, hs⟩
    | bind =>
      rcases onBindFrame_count m e with ⟨e', he'⟩ | ⟨m', l, hm', hs⟩
      · simp only [he']
        exact ⟨_, .unexpected m _⟩
      · simp only [hm']
        exact ⟨l, hs⟩
    | control => exact ⟨_, .unexpected m _⟩

/-- Every signal to a live session is counted as `SignalCount` says. -/
theorem handleSignal_count {m : Machine} (h : m.actor.phase ≠ .disconnected) (s : Signal) :
    ∃ l, SignalCount m (m.handleSignal s) l := by
  unfold handleSignal
  rw [if_neg h]
  cases s with
  | frame channel e => exact handleFrame_count m channel e
  | bound =>
    by_cases hb : m.actor.phase = .binding
    · exact ⟨_, .bound hb⟩
    · rw [onBound_of_ne hb]
      exact ⟨_, .still m⟩
  | subscribed =>
    exact ⟨_, .calm (calm_onSubscription m _ _) (bumps_onSubscription m _ _) (by simp)⟩
  | closed channel =>
    cases channel with
    | create =>
      dsimp only
      split
      · exact ⟨_, .connectionError _⟩
      · exact ⟨_, .bind (by assumption)⟩
      · exact ⟨_, .still m⟩
    | bind => exact ⟨_, .connectionError _⟩
    | control => exact ⟨_, .still m⟩
  | failed err => exact ⟨_, .connectionError err⟩

end Machine

/-! ## Milestones -/

/-- The counters that count how far sessions got; a session counts in each at most once. -/
inductive Milestone where
  | createPending
  | createDone
  | bindPending
  | bindDone
  | subPending
  deriving DecidableEq, Repr

/-- The counter of a milestone. -/
def Milestone.counter : Milestone → Counter
  | .createPending => .createPending
  | .createDone => .createDone
  | .bindPending => .bindPending
  | .bindDone => .bindDone
  | .subPending => .subPending

/-- Whether an effect records progress: a create or bind request, or a status other than
    disconnected. -/
def Effect.advances : Effect → Bool
  | .createSession .. | .bindSession .. => true
  | .status s => s != .disconnected
  | _ => false

namespace Effect

theorem advances_of_isQuiet : ∀ e : Effect, e.isQuiet → e.advances = false := by
  intro e; cases e <;> simp [isQuiet, advances]

theorem created?_of_advances : ∀ e : Effect, e.advances = false → e.created? = none := by
  intro e; cases e <;> simp [advances, created?]

theorem bindTarget?_of_advances : ∀ e : Effect, e.advances = false → e.bindTarget? = none := by
  intro e; cases e <;> simp [advances, bindTarget?]

/-- Effects that record no progress report no status but disconnected. -/
theorem count_status?_of_advances {q : List Effect} (hq : ∀ e ∈ q, e.advances = false)
    {s : Status} (hs : s ≠ .disconnected) : (q.filterMap status?).count s = 0 := by
  refine List.count_eq_zero.2 fun hmem => ?_
  obtain ⟨e, he, hes⟩ := List.mem_filterMap.1 hmem
  have hadv := hq e he
  cases e <;> simp only [status?, Option.some.injEq, reduceCtorEq] at hes
  subst hes
  simp [advances, hs] at hadv

end Effect

theorem Actor.shutdownEffects_advances (a : Actor) :
    ∀ e ∈ a.shutdownEffects, e.advances = false := by
  intro e he
  simp only [Actor.shutdownEffects, List.mem_append, List.mem_map] at he
  split at he <;> (obtain ((he | ⟨_, _, rfl⟩) | ⟨_, _, rfl⟩) | ⟨_, _, rfl⟩ := he) <;>
    simp_all [Effect.advances]

namespace Machine

/-- How many times a session has reached each milestone, read off what it did: the create
    requests it posted, the stream-sensing statuses it reported, the bind connections it
    opened, the streaming statuses it reported, and whether it subscribed. -/
def reached (m : Machine) : Milestone → Nat
  | .createPending => (m.effects.filterMap Effect.created?).length
  | .createDone => m.statuses.count .streamSensing
  | .bindPending => (m.effects.filterMap Effect.bindTarget?).length
  | .bindDone => m.statuses.count (Status.streaming m.params.transport)
  | .subPending => m.subscribed.toNat

/-- Effects that record no progress leave every milestone where it was. -/
theorem reached_of_append {m m' : Machine} {q : List Effect} (he : m'.effects = m.effects ++ q)
    (hq : ∀ e ∈ q, e.advances = false) (hp : m'.params = m.params)
    (hs : m'.subscribed = m.subscribed) : m'.reached = m.reached := by
  have hcreated : q.filterMap Effect.created? = [] :=
    List.filterMap_eq_nil_iff.2 fun e he => Effect.created?_of_advances e (hq e he)
  have hbind : q.filterMap Effect.bindTarget? = [] :=
    List.filterMap_eq_nil_iff.2 fun e he => Effect.bindTarget?_of_advances e (hq e he)
  funext ms
  cases ms with
  | createPending | bindPending => simp [reached, he, List.filterMap_append, hcreated, hbind]
  | createDone =>
    simp [reached, statuses, he, List.filterMap_append,
      Effect.count_status?_of_advances hq (s := .streamSensing) (by decide)]
  | bindDone =>
    have hne : Status.streaming m.params.transport ≠ .disconnected := by
      cases m.params.transport <;> decide
    simp [reached, statuses, he, hp, List.filterMap_append, Effect.count_status?_of_advances hq hne]
  | subPending => simp [reached, hs]

/-- What a step from `m` to `m'` adds to the counters, `l`: its milestones are the ones the step
    reached. -/
structure Tallied (m m' : Machine) (l : List Counter) : Prop where
  bumps : Bumps m m' l
  reached : ∀ ms, m.reached ms + l.count ms.counter = m'.reached ms

theorem Tallied.trans {m₁ m₂ m₃ : Machine} {l₁ l₂ : List Counter} (h₁ : Tallied m₁ m₂ l₁)
    (h₂ : Tallied m₂ m₃ l₂) : Tallied m₁ m₃ (l₁ ++ l₂) where
  bumps := h₁.bumps.trans h₂.bumps
  reached ms := by
    rw [List.count_append, ← Nat.add_assoc, h₁.reached, h₂.reached]

/-- A step that reaches no milestone and counts none. -/
theorem Tallied.of_reached_eq {m m' : Machine} {l : List Counter} (hb : Bumps m m' l)
    (hr : m'.reached = m.reached) (hl : ∀ ms : Milestone, ms.counter ∉ l) : Tallied m m' l where
  bumps := hb
  reached ms := by rw [hr, List.count_eq_zero.2 (hl ms), Nat.add_zero]

theorem not_mem_of_forall_eq {l : List Counter} {c : Counter} (h : ∀ c' ∈ l, c' = c)
    (hc : ∀ ms : Milestone, ms.counter ≠ c) (ms : Milestone) : ms.counter ∉ l :=
  fun hmem => hc ms (h _ hmem)

/-! ### What each handler reaches -/

theorem reached_calm {m m' : Machine} (h : Calm m m') : m'.reached = m.reached := by
  obtain ⟨ctx, q, hq, rfl⟩ := h
  exact reached_of_append rfl (fun e he => Effect.advances_of_isQuiet e (hq e he)) rfl rfl

/-- Shutting down records no progress, nor do the effects around it when they record none. -/
theorem advances_around_shutdown {a : Actor} {pre post : List Effect}
    (hpre : ∀ e ∈ pre, e.advances = false) (hpost : ∀ e ∈ post, e.advances = false) :
    ∀ e ∈ pre ++ a.shutdownEffects ++ post, e.advances = false := by
  intro e he
  rcases List.mem_append.1 he with he | he
  · rcases List.mem_append.1 he with he | he
    · exact hpre e he
    · exact a.shutdownEffects_advances e he
  · exact hpost e he

/-- A failure counted and logged, then the end: nothing is reached. -/
theorem reached_terminate_after_note (m : Machine) (c : Counter) (level : LogLevel)
    (text : String) (code : Int) (message : String) :
    (((m.bump c).note level text).terminate code message).reached = m.reached := by
  rw [terminate_eq]
  exact reached_of_append (q := [.log level ("[" ++ m.actor.id ++ "] " ++ text)] ++
    m.actor.shutdownEffects ++ [.status .disconnected, .serverError code message])
    (by simp [bump, note, emit])
    (advances_around_shutdown (by simp [Effect.advances]) (by simp [Effect.advances])) rfl rfl

theorem reached_onSessionError {m : Machine} (h : m.actor.phase ≠ .disconnected) (code : Int)
    (message : String) : (m.onSessionError code message).reached = m.reached := by
  simp only [onSessionError, h, if_false]
  exact reached_terminate_after_note m _ _ _ _ _

theorem reached_onConnectionError {m : Machine} (h : m.actor.phase ≠ .disconnected)
    (err : ClientError) : (m.onConnectionError err).reached = m.reached := by
  simp only [onConnectionError, h, if_false]
  exact reached_terminate_after_note m _ _ _ _ _

theorem reached_disconnect (m : Machine) : m.disconnect.reached = m.reached := by
  by_cases hd : m.actor.phase = .disconnected
  · rw [disconnect_of_disconnected hd]
  · rw [disconnect_of_live hd]
    exact reached_of_append (q := [.log .info ("[" ++ m.actor.id ++ "] " ++ "Disconnecting")] ++
      m.actor.shutdownEffects ++ [.status .disconnected]) (by simp)
      (advances_around_shutdown (by simp [Effect.advances]) (by simp [Effect.advances])) rfl rfl

@[simp] theorem reached_reply (m : Machine) (t : Nat) (o : Except ClientError Unit) :
    (m.reply t o).reached = m.reached :=
  reached_of_append (q := [.reply t o]) rfl (by simp [Effect.advances]) rfl rfl

/-- `bind` opens the bind connection. -/
theorem reached_bind (m : Machine) (ms : Milestone) :
    m.bind.reached ms = m.reached ms + if ms = .bindPending then 1 else 0 := by
  cases ms <;> simp [reached, statuses, bind_eq, List.filterMap_append, List.filterMap_cons,
    Effect.created?, Effect.bindTarget?, Effect.status?, subscribed]

theorem Tallied.calm {m m' : Machine} {l : List Counter} (hc : Calm m m') (hb : Bumps m m' l)
    (hl : ∀ c ∈ l, c = .subDone) : Tallied m m' l :=
  .of_reached_eq hb (reached_calm hc) (not_mem_of_forall_eq hl (by intro ms; cases ms <;> decide))

theorem tallied_bind (m : Machine) : Tallied m m.bind [.bindPending] where
  bumps := bumps_bind m
  reached ms := by
    rw [reached_bind]
    cases ms <;> rfl

@[simp] theorem streaming_ne_streamSensing (t : Transport) :
    Status.streaming t ≠ .streamSensing := by
  cases t <;> decide

@[simp] theorem streamSensing_ne_streaming (t : Transport) :
    Status.streamSensing ≠ Status.streaming t :=
  (streaming_ne_streamSensing t).symm

@[simp] theorem connecting_ne_streaming (t : Transport) : Status.connecting ≠ Status.streaming t := by
  cases t <;> decide

/-- The creation reports stream-sensing, and opens the bind connection if a bind waited. -/
theorem tallied_onConnected (m : Machine) (sessionId : String) (link : Option String) :
    Tallied m (m.onConnected sessionId link)
      (.createDone :: if m.actor.bindRequests = [] then [] else [.bindPending]) where
  bumps := bumps_onConnected m sessionId link
  reached ms := by
    obtain ⟨control, ctx, heq⟩ := onConnected_eq m sessionId link
    rw [heq]
    by_cases hb : m.actor.bindRequests = []
    · cases ms <;> simp [hb, reached, statuses, subscribed, List.filterMap_append,
        List.filterMap_cons, Effect.created?, Effect.bindTarget?, Effect.status?,
        Milestone.counter]
    · cases ms <;> simp [hb, reached, statuses, subscribed, bind_eq, List.filterMap_append,
        List.filterMap_cons, List.filterMap_map, Function.comp_def, Effect.created?,
        Effect.bindTarget?, Effect.status?, Milestone.counter]

/-- The bind acknowledged reports streaming, and a parked subscription is made. -/
theorem tallied_onBound {m : Machine} (h : m.actor.phase = .binding) :
    Tallied m m.onBound (.bindDone :: subBumps m m.onBound) where
  bumps := (bumps_onBound h).1
  reached ms := by
    simp only [List.count_cons, count_subBumps]
    cases ms with
    | subPending =>
      simp only [reached, Milestone.counter, if_pos]
      exact toNat_subscribed_add (bumps_onBound h).2
    | createPending | createDone | bindPending | bindDone =>
      obtain ⟨stream, sub, ctx, outs, heq, -, -⟩ := onBound_eq h
      rw [heq]
      simp [reached, statuses, List.filterMap_append, List.filterMap_cons, Milestone.counter,
        Effect.created?, Effect.bindTarget?, Effect.status?,
        Effect.filterMap_zipWith_reply (f := Effect.status?) (fun _ _ => rfl),
        Effect.filterMap_zipWith_reply (f := Effect.created?) (fun _ _ => rfl),
        Effect.filterMap_zipWith_reply (f := Effect.bindTarget?) (fun _ _ => rfl)]

theorem Tallied.refl (m : Machine) : Tallied m m [] :=
  .of_reached_eq (Bumps.of_stats rfl) rfl (by simp)

/-- A reply adds nothing to the counters. -/
theorem Tallied.reply {m m' : Machine} {l : List Counter} (h : Tallied m m' l) (t : Nat)
    (o : Except ClientError Unit) : Tallied m (m'.reply t o) l where
  bumps := h.bumps.stats_eq rfl
  reached ms := by rw [reached_reply]; exact h.reached ms

/-- A step that may make the subscription, and records nothing. -/
theorem Tallied.of_subscribing {m m' : Machine} (hb : Bumps m m' (subBumps m m'))
    (hmono : m.subscribed → m'.subscribed) (he : m'.effects = m.effects)
    (hp : m'.params = m.params) : Tallied m m' (subBumps m m') where
  bumps := hb
  reached ms := by
    rw [count_subBumps]
    cases ms with
    | subPending =>
      simp only [Machine.reached, Milestone.counter, if_pos]
      exact toNat_subscribed_add hmono
    | createPending | createDone | bindPending | bindDone =>
      simp [Machine.reached, statuses, Milestone.counter, he, hp]

/-- The turn on `i` ends the live session through the session-error handler, after quiet
    effects: a log line, or the subscription's listener hearing that its request failed. -/
def EndsBySessionError (m : Machine) (i : Input) : Prop :=
  m.actor.phase ≠ .disconnected ∧ ∃ (q : List Effect) (code : Int) (message : String),
    (∀ e ∈ q, e.isQuiet) ∧
      m.step i = { m with effects := m.effects ++ q }.onSessionError code message

/-- The turn on `i` ends the live session through the connection-error handler. -/
def EndsByConnectionError (m : Machine) (i : Input) : Prop :=
  m.actor.phase ≠ .disconnected ∧ ∃ err : ClientError, m.step i = m.onConnectionError err

theorem EndsBySessionError.bumps {m : Machine} {i : Input} (h : m.EndsBySessionError i) :
    Bumps m (m.step i) [.socketErrors] := by
  obtain ⟨hlive, q, code, message, -, heq⟩ := h
  rw [heq]
  exact bumps_onSessionError (m := { m with effects := m.effects ++ q }) hlive code message

theorem EndsByConnectionError.bumps {m : Machine} {i : Input} (h : m.EndsByConnectionError i) :
    Bumps m (m.step i) [.connErrors] := by
  obtain ⟨hlive, err, heq⟩ := h
  rw [heq]
  exact bumps_onConnectionError hlive err

theorem EndsBySessionError.ends {m : Machine} {i : Input} (h : m.EndsBySessionError i) :
    (m.step i).actor.phase = .disconnected := by
  obtain ⟨hlive, q, code, message, -, heq⟩ := h
  simp [heq, onSessionError, hlive, terminate_eq, Actor.shutDown]

theorem EndsByConnectionError.ends {m : Machine} {i : Input} (h : m.EndsByConnectionError i) :
    (m.step i).actor.phase = .disconnected := by
  obtain ⟨hlive, err, heq⟩ := h
  simp [heq, onConnectionError, hlive, terminate_eq, Actor.shutDown]

/-- What one turn of the loop on `i` adds to the counters, `l`: the milestones it reaches,
    none once the session has ended, and at most one error, counted by the handler that ended
    the session. -/
structure StepTally (m : Machine) (i : Input) (l : List Counter) : Prop where
  tallied : Tallied m (m.step i) l
  ended : (m.step i).actor.phase = .disconnected → (m.step i).reached = m.reached
  errors : l.count .connErrors + l.count .socketErrors ≤ 1
  sessionError : l.count .socketErrors = 1 → m.EndsBySessionError i
  connectionError : l.count .connErrors = 1 → m.EndsByConnectionError i

/-- A turn that counts no error. -/
theorem StepTally.of_quiet {m m' : Machine} {i : Input} {l : List Counter}
    (hstep : m.step i = m') (ht : Tallied m m' l)
    (hended : m'.actor.phase = .disconnected → m'.reached = m.reached)
    (hl : ∀ c ∈ l, c ≠ .connErrors ∧ c ≠ .socketErrors) : StepTally m i l := by
  subst hstep
  have hconn : l.count .connErrors = 0 := List.count_eq_zero.2 fun h => (hl _ h).1 rfl
  have hsocket : l.count .socketErrors = 0 := List.count_eq_zero.2 fun h => (hl _ h).2 rfl
  exact ⟨ht, hended, by omega, fun h => by omega, fun h => by omega⟩

theorem stepTally_signal {m : Machine} (h : m.actor.phase ≠ .disconnected) (s : Signal) :
    ∃ l, StepTally m (.signal s) l := by
  obtain ⟨l, hs⟩ := handleSignal_count h s
  refine ⟨l, ?_⟩
  generalize hm' : m.handleSignal s = m' at hs
  have hstep : m.step (.signal s) = m' := hm'
  cases hs with
  | calm hc hb hl =>
    exact .of_quiet hstep (.calm hc hb hl) (fun _ => reached_calm hc)
      fun c hc' => by rw [hl c hc']; decide
  | sessionError q code message hq =>
    have hr := (reached_onSessionError (m := { m with effects := m.effects ++ q }) h code
      message).trans (reached_calm ⟨m.ctx, q, hq, rfl⟩)
    rw [← hstep] at hr
    refine ⟨.of_reached_eq ?_ hr (by intro ms; cases ms <;> decide), fun _ => hr, by decide,
      fun _ => ⟨h, q, code, message, hq, hstep⟩, fun h => by simp at h⟩
    rw [hstep]
    exact bumps_onSessionError (m := { m with effects := m.effects ++ q }) h code message
  | connectionError err =>
    have hr := reached_onConnectionError h err
    rw [← hstep] at hr
    refine ⟨.of_reached_eq ?_ hr (by intro ms; cases ms <;> decide), fun _ => hr, by decide,
      fun h => by simp at h, fun _ => ⟨h, err, hstep⟩⟩
    rw [hstep]
    exact bumps_onConnectionError h err
  | connected sessionId link hp =>
    refine .of_quiet hstep (tallied_onConnected m sessionId link) (fun hd => ?_) ?_
    · rw [(onConnected_records m sessionId link).1] at hd
      split at hd <;> cases hd
    · intro c hc
      have hc' : c = .createDone ∨ c = .bindPending := by split at hc <;> simp_all
      rcases hc' with rfl | rfl <;> decide
  | bind hp =>
    exact .of_quiet hstep (tallied_bind m) (fun hd => by simp [bind_eq] at hd) (by simp)
  | bound hp =>
    obtain ⟨stream, sub, ctx, outs, heq, -, -⟩ := onBound_eq hp
    refine .of_quiet hstep (tallied_onBound hp) (fun hd => by simp [heq] at hd) ?_
    intro c hc
    simp only [List.mem_cons, subBumps, List.mem_replicate] at hc
    rcases hc with rfl | ⟨-, rfl⟩ <;> decide

theorem tallied_disconnect (m : Machine) : Tallied m m.disconnect [] :=
  .of_reached_eq (bumps_disconnect m) (reached_disconnect m) (by simp)

/-- A command counts no error: only a bind from the connected phase and a subscription
    made on the bound stream count at all. -/
theorem stepTally_command (m : Machine) (cmd : Command) : ∃ l, StepTally m (.command cmd) l := by
  have hs := handleCommand_step m cmd
  generalize hm' : m.handleCommand cmd = m' at hs
  have hstep : m.step (.command cmd) = m' := hm'
  -- the actor alone changes when an operation or a bind is parked
  have hparked : ∀ a : Actor, a.subscription = m.actor.subscription →
      ({ m with actor := a } : Machine).reached = m.reached := fun a ha =>
    reached_of_append (q := []) (by simp) (by simp) rfl (by simp [subscribed, ha])
  cases hs with
  | disconnect t =>
    exact ⟨[], .of_quiet hstep ((tallied_disconnect m).reply t _)
      (fun _ => by rw [reached_reply, reached_disconnect]) (by simp)⟩
  | bind t hp =>
    exact ⟨_, .of_quiet hstep ((tallied_bind m).reply t _)
      (fun hd => by simp [reply, emit, bind_eq] at hd) (by simp)⟩
  | alreadyBinding t _ | refuseBind t _ | refuse op t _ =>
    exact ⟨[], .of_quiet hstep ((Tallied.refl m).reply t _) (fun _ => reached_reply m t _)
      (by simp)⟩
  | parkBind t _ =>
    have hr := hparked { m.actor with bindRequests := m.actor.bindRequests ++ [t] } rfl
    exact ⟨[], .of_quiet hstep (.of_reached_eq (Bumps.of_stats rfl) hr (by simp)) (fun _ => hr)
      (by simp)⟩
  | park op t _ =>
    have hr := hparked { m.actor with pending := m.actor.pending ++ [(op, t)] } rfl
    exact ⟨[], .of_quiet hstep (.of_reached_eq (Bumps.of_stats rfl) hr (by simp)) (fun _ => hr)
      (by simp)⟩
  | execute op t hp =>
    obtain ⟨stream, sub, ctx, hx, -⟩ := execute_eq m op
    obtain ⟨hb, hmono⟩ := execute_counts m op
    have ht : Tallied m (m.execute op).2 (subBumps m (m.execute op).2) :=
      .of_subscribing hb hmono (by rw [hx]) (by rw [hx])
    refine ⟨_, .of_quiet hstep (ht.reply t _) (fun hd => by simp [reply, emit, hx, hp] at hd) ?_⟩
    intro c hc
    simp only [subBumps, List.mem_replicate] at hc
    rw [hc.2]
    decide

/-- Every turn of the loop is counted as `StepTally` says. -/
theorem step_tally (m : Machine) (i : Input) : ∃ l, StepTally m i l := by
  cases i with
  | command cmd => exact stepTally_command m cmd
  | signal s =>
    by_cases hd : m.actor.phase = .disconnected
    · exact ⟨[], .of_quiet (handleSignal_of_disconnected hd s) (Tallied.refl m) (fun _ => rfl)
        (by simp)⟩
    · exact stepTally_signal hd s
  | handlesDropped =>
    exact ⟨[], .of_quiet rfl (tallied_disconnect m) (fun _ => reached_disconnect m) (by simp)⟩
  | writerStopped =>
    exact ⟨[], .of_quiet rfl (.of_reached_eq (Bumps.of_stats rfl) rfl (by simp)) (fun _ => rfl)
      (by simp)⟩

/-- A turn counts a session error exactly when it ends the session through that handler. -/
theorem StepTally.sessionError_iff {m : Machine} {i : Input} {l : List Counter}
    (h : StepTally m i l) : l.count .socketErrors = 1 ↔ m.EndsBySessionError i := by
  refine ⟨h.sessionError, fun he => ?_⟩
  have hsmall : l.count .socketErrors < Nat.pow 2 64 :=
    Nat.lt_of_le_of_lt (Nat.le_of_add_left_le h.errors) (by decide)
  exact h.tallied.bumps.count_eq he.bumps .socketErrors hsmall (by decide)

theorem StepTally.connectionError_iff {m : Machine} {i : Input} {l : List Counter}
    (h : StepTally m i l) : l.count .connErrors = 1 ↔ m.EndsByConnectionError i := by
  refine ⟨h.connectionError, fun he => ?_⟩
  have hsmall : l.count .connErrors < Nat.pow 2 64 :=
    Nat.lt_of_le_of_lt (Nat.le_of_add_right_le h.errors) (by decide)
  exact h.tallied.bumps.count_eq he.bumps .connErrors hsmall (by decide)

/-- A turn that counts an error starts from a live session. -/
theorem StepTally.live_of_errors {m : Machine} {i : Input} {l : List Counter}
    (h : StepTally m i l) (hl : l.count .connErrors + l.count .socketErrors ≠ 0) :
    m.actor.phase ≠ .disconnected := by
  by_cases hs : l.count .socketErrors = 1
  · exact (h.sessionError hs).1
  · exact (h.connectionError (by have := h.errors; omega)).1

/-- A turn that counts an error ends the session. -/
theorem StepTally.ends_of_errors {m : Machine} {i : Input} {l : List Counter}
    (h : StepTally m i l) (hl : l.count .connErrors + l.count .socketErrors ≠ 0) :
    (m.step i).actor.phase = .disconnected := by
  by_cases hs : l.count .socketErrors = 1
  · exact (h.sessionError hs).ends
  · exact (h.connectionError (by have := h.errors; omega)).ends

end Machine

end TlcpLoad
