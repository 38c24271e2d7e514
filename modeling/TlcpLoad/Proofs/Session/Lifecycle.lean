import TlcpLoad.Proofs.Session.Steps

/-! # The life of a session

A session's phase only moves forward, connecting → connected → binding → bound, and may end
from any of them; once over it stays over (`Phase.Moves`, `rank_le_run`). What the listeners
hear follows the phase: the statuses trace the phases reached (`Phase.trail`), with at most one
disconnected at the end; the status a handle reads is the last one reported; the create request
is sent once; and the server-error listener is called at most once, right after the
disconnected status, exactly when a failure ends the session.

Each step says what it reported (`Machine.Reports`, `reports_step`), and the run invariant
`Machine.Lifecycle` is carried from that alone. -/

namespace TlcpLoad

/-- Whether an input is a notification of the transports. -/
def Input.isSignal : Input → Bool
  | .signal _ => true
  | _ => false

/-- Effects that no lifecycle listener hears: everything but statuses, server errors and the
    create request. -/
def Effect.isSilent : Effect → Bool
  | .status _ | .serverError .. | .createSession .. => false
  | _ => true

namespace Effect

theorem status?_of_isSilent : ∀ e : Effect, e.isSilent → e.status? = none := by
  intro e; cases e <;> simp [isSilent, status?]

theorem created?_of_isSilent : ∀ e : Effect, e.isSilent → e.created? = none := by
  intro e; cases e <;> simp [isSilent, created?]

theorem serverError?_of_isSilent : ∀ e : Effect, e.isSilent → e.serverError? = none := by
  intro e; cases e <;> simp [isSilent, serverError?]

theorem isSilent_of_isQuiet : ∀ e : Effect, e.isQuiet → e.isSilent := by
  intro e; cases e <;> simp [isSilent, isQuiet]

end Effect

/-! ## Phases -/

namespace Phase

/-- How far a session has come: the live phases in the order they are reached, then the end. -/
def rank : Phase → Nat
  | .connecting => 0
  | .connected => 1
  | .binding => 2
  | .bound => 3
  | .disconnected => 4

/-- The moves of a phase in one step: none, one forward along connecting → connected →
    binding → bound (connecting → binding when a bind waited for the creation), or the end. -/
inductive Moves : Phase → Phase → Prop where
  | stay (p : Phase) : Moves p p
  | created : Moves .connecting .connected
  | createdBinding : Moves .connecting .binding
  | bind : Moves .connected .binding
  | bound : Moves .binding .bound
  | ends (p : Phase) : Moves p .disconnected

theorem Moves.rank_le {p q : Phase} (h : Moves p q) : p.rank ≤ q.rank := by
  cases h with
  | stay p => exact Nat.le_refl _
  | ends p => cases p <;> decide
  | created | createdBinding | bind | bound => decide

/-- The end is final. -/
theorem Moves.of_disconnected {q : Phase} (h : Moves .disconnected q) : q = .disconnected := by
  cases h <;> rfl

/-- The statuses a move reports. -/
def reported (transport : Transport) : Phase → Phase → List Status
  | .disconnected, _ => []
  | _, .disconnected => [.disconnected]
  | .connecting, .connected | .connecting, .binding => [.streamSensing]
  | .binding, .bound => [Status.streaming transport]
  | _, _ => []

/-- The statuses reported by the time a live phase is reached. -/
def trail (transport : Transport) : Phase → List Status
  | .connecting => [.connecting]
  | .connected | .binding => [.connecting, .streamSensing]
  | .bound => [.connecting, .streamSensing, Status.streaming transport]
  | .disconnected => []

/-- A move between live phases reports what takes the trail from one to the other. -/
theorem trail_append_reported {p q : Phase} (h : Moves p q) (hq : q ≠ .disconnected)
    (t : Transport) : trail t p ++ reported t p q = trail t q := by
  cases h with
  | stay p => cases p <;> simp_all [trail, reported]
  | ends p => exact absurd rfl hq
  | created | createdBinding | bind | bound => rfl

theorem reported_of_ends {p : Phase} (hp : p ≠ .disconnected) (t : Transport) :
    reported t p .disconnected = [.disconnected] := by
  cases p <;> simp_all [reported]

/-- Every trail leads up to that of a bound session. -/
theorem trail_isPrefix (t : Transport) (p : Phase) : trail t p <+: trail t .bound := by
  cases p with
  | connecting => exact ⟨[.streamSensing, Status.streaming t], rfl⟩
  | connected | binding => exact ⟨[Status.streaming t], rfl⟩
  | bound => exact List.prefix_refl _
  | disconnected => exact List.nil_prefix

end Phase

namespace Machine

/-- The statuses reported so far, in order. -/
def statuses (m : Machine) : List Status :=
  m.effects.filterMap Effect.status?

/-! ## What a step reports -/

/-- What a step from `m` to `m'` on an input reports to the listeners. Its phase moves as
    `Phase.Moves` allows; the statuses it reports are the move's; the status a handle reads
    follows them; it sends no create request; and it calls the server-error listener, right
    after reporting disconnected, exactly when a signal ends the live session. -/
structure Reports (m m' : Machine) (i : Input) : Prop where
  grows : m.effects <+: m'.effects
  params : m'.params = m.params
  moves : Phase.Moves m.actor.phase m'.actor.phase
  statuses : (m'.effectsSince m).filterMap Effect.status? =
    Phase.reported m.params.transport m.actor.phase m'.actor.phase
  shown : m'.shownStatus = ((m'.effectsSince m).filterMap Effect.status?).getLast?.or m.shownStatus
  created : (m'.effectsSince m).filterMap Effect.created? = []
  failure : m.actor.phase ≠ .disconnected → m'.actor.phase = .disconnected → i.isSignal →
    ∃ pre code message,
      m'.effectsSince m = pre ++ [.status .disconnected, .serverError code message] ∧
        pre.filterMap Effect.serverError? = []
  noFailure :
    ¬(m.actor.phase ≠ .disconnected ∧ m'.actor.phase = .disconnected ∧ i.isSignal) →
      (m'.effectsSince m).filterMap Effect.serverError? = []

/-- A step that only records silent effects and moves without reporting. -/
theorem Reports.silent {m m' : Machine} {i : Input} {q : List Effect}
    (he : m'.effects = m.effects ++ q) (hq : ∀ e ∈ q, e.isSilent)
    (hparams : m'.params = m.params) (hmoves : Phase.Moves m.actor.phase m'.actor.phase)
    (hrep : Phase.reported m.params.transport m.actor.phase m'.actor.phase = [])
    (hend : m'.actor.phase = .disconnected → m.actor.phase = .disconnected)
    (hshown : m'.shownStatus = m.shownStatus) : Reports m m' i where
  grows := he ▸ List.prefix_append _ _
  params := hparams
  moves := hmoves
  statuses := by
    rw [effectsSince_of_eq_append he, hrep]
    exact Effect.filterMap_eq_nil_of_unseen Effect.status?_of_isSilent hq
  shown := by
    rw [effectsSince_of_eq_append he,
      Effect.filterMap_eq_nil_of_unseen Effect.status?_of_isSilent hq]
    exact hshown
  created := by
    rw [effectsSince_of_eq_append he]
    exact Effect.filterMap_eq_nil_of_unseen Effect.created?_of_isSilent hq
  failure := fun hlive hd => absurd (hend hd) hlive
  noFailure := fun _ => by
    rw [effectsSince_of_eq_append he]
    exact Effect.filterMap_eq_nil_of_unseen Effect.serverError?_of_isSilent hq

/-- A step that keeps the phase and records only silent effects. -/
theorem Reports.stay {m m' : Machine} {i : Input} {q : List Effect}
    (he : m'.effects = m.effects ++ q) (hq : ∀ e ∈ q, e.isSilent)
    (hparams : m'.params = m.params) (hphase : m'.actor.phase = m.actor.phase)
    (hshown : m'.shownStatus = m.shownStatus) :
    Reports m m' i :=
  Reports.silent he hq hparams (hphase ▸ .stay _) (by rw [hphase]; cases m.actor.phase <;> rfl)
    (fun hd => hphase ▸ hd) hshown

/-- A reply after a step that is no signal adds nothing to what it reported. -/
theorem Reports.reply {m m' : Machine} {i : Input} (h : Reports m m' i) (hi : i.isSignal = false)
    (t : Nat) (o : Except ClientError Unit) : Reports m (m'.reply t o) i := by
  have hsince : (m'.reply t o).effectsSince m = m'.effectsSince m ++ [.reply t o] := by
    apply effectsSince_of_eq_append
    rw [← List.append_assoc, ← eq_append_effectsSince h.grows]
    rfl
  refine ⟨h.grows.trans (List.prefix_append _ _), h.params, h.moves, ?_, ?_, ?_, ?_, ?_⟩
  · simpa [hsince, List.filterMap_append, List.filterMap_cons, Effect.status?] using h.statuses
  · simpa [hsince, List.filterMap_append, List.filterMap_cons, Effect.status?] using h.shown
  · simp [hsince, List.filterMap_append, List.filterMap_cons, Effect.created?, h.created]
  · exact fun _ _ hs => absurd hs (by simp [hi])
  · intro hn
    simp [hsince, List.filterMap_append, List.filterMap_cons, Effect.serverError?,
      h.noFailure (by simpa using hn)]

theorem Reports.refl (m : Machine) (i : Input) : Reports m m i :=
  Reports.stay (q := []) (List.append_nil _).symm (by simp) rfl rfl rfl

/-- Asking a live session to end reports the disconnected status, and no server error. -/
theorem reports_disconnect (m : Machine) {i : Input} (hi : i.isSignal = false) :
    Reports m m.disconnect i := by
  by_cases hd : m.actor.phase = .disconnected
  · rw [disconnect_of_disconnected hd]
    exact Reports.refl m i
  · rw [disconnect_of_live hd]
    refine ⟨by simp, rfl, .ends _, ?_, ?_, ?_, fun _ _ hs => absurd hs (by simp [hi]),
      fun _ => ?_⟩
    · simp [effectsSince, List.filterMap_append, List.filterMap_cons, Effect.status?,
        Actor.shutdownEffects_status?, Actor.shutDown, Phase.reported_of_ends hd]
    · simp [effectsSince, List.filterMap_append, List.filterMap_cons, Effect.status?,
        Actor.shutdownEffects_status?]
    · simp [effectsSince, List.filterMap_append, List.filterMap_cons, Effect.created?,
        Actor.shutdownEffects_created?]
    · simp [effectsSince, List.filterMap_append, List.filterMap_cons, Effect.serverError?,
        Actor.shutdownEffects_serverError?]

theorem reports_commandStep {m m' : Machine} {cmd : Command} (hs : CommandStep m cmd m') :
    Reports m m' (.command cmd) := by
  cases hs with
  | disconnect t => exact (reports_disconnect m rfl).reply rfl t _
  | bind t hp =>
    have hbind : Reports m m.bind (.command ⟨.bind, t⟩) :=
      Reports.silent (q := [.bindSession m.actor.control (.bindSession m.actor.id)]) rfl
        (by simp [Effect.isSilent]) rfl (by rw [hp]; exact .bind) (by rw [hp]; rfl)
        (fun h => by simp [bind_eq] at h) rfl
    exact hbind.reply rfl t _
  | alreadyBinding t _ | refuseBind t _ | refuse op t _ => exact (Reports.refl m _).reply rfl t _
  | parkBind t _ | park op t _ =>
    exact Reports.stay (q := []) (List.append_nil _).symm (by simp) rfl rfl rfl
  | execute op t _ =>
    -- running the operation changes the stream only
    obtain ⟨stream, sub, ctx, hx, -⟩ := execute_eq m op
    have hrun : Reports m (m.execute op).2 (.command ⟨.whenBound op, t⟩) :=
      Reports.stay (q := []) (by rw [hx, List.append_nil]) (by simp) (by rw [hx]) (by rw [hx])
        (by rw [hx])
    exact hrun.reply rfl t _

/-- A failure reports the disconnected status and then calls the server-error listener. -/
theorem Ends.reports {m m' : Machine} {s : Signal} (hlive : m.actor.phase ≠ .disconnected)
    (h : Ends m m') : Reports m m' (.signal s) := by
  obtain ⟨m₀, code, message, ⟨ctx, q, hq, rfl⟩, rfl⟩ := h
  -- the calm prelude holds only log lines and subscription callbacks
  have hs : q.filterMap Effect.status? = [] :=
    Effect.filterMap_eq_nil_of_unseen Effect.status?_of_isQuiet hq
  have hc : q.filterMap Effect.created? = [] :=
    Effect.filterMap_eq_nil_of_unseen Effect.created?_of_isQuiet hq
  have he : q.filterMap Effect.serverError? = [] :=
    Effect.filterMap_eq_nil_of_unseen Effect.serverError?_of_isQuiet hq
  rw [terminate_eq]
  refine ⟨by simp, rfl, .ends _, ?_, ?_, ?_,
    fun _ _ _ => ⟨q ++ m.actor.shutdownEffects, code, message, by simp [effectsSince], ?_⟩,
    fun hn => absurd ⟨hlive, rfl, rfl⟩ hn⟩
  · simp [effectsSince, List.filterMap_append, List.filterMap_cons, Effect.status?, hs,
      Actor.shutdownEffects_status?, Actor.shutDown, Phase.reported_of_ends hlive]
  · simp [effectsSince, List.filterMap_append, List.filterMap_cons, Effect.status?, hs,
      Actor.shutdownEffects_status?]
  · simp [effectsSince, List.filterMap_append, List.filterMap_cons, Effect.created?, hc,
      Actor.shutdownEffects_created?]
  · simp [List.filterMap_append, he, Actor.shutdownEffects_serverError?]

theorem reports_signalStep {m m' : Machine} {s : Signal} (hlive : m.actor.phase ≠ .disconnected)
    (hs : SignalStep m m') : Reports m m' (.signal s) := by
  cases hs with
  | calm hcalm =>
    obtain ⟨ctx, q, hq, rfl⟩ := hcalm
    exact Reports.stay rfl (fun e he => Effect.isSilent_of_isQuiet e (hq e he)) rfl rfl rfl
  | ends he => exact he.reports hlive
  | connected sessionId link hp =>
    -- the creation reports stream-sensing, whether or not a parked bind then runs
    obtain ⟨hphase, hsince, -, -, hshown, hparams⟩ := onConnected_records m sessionId link
    have hreported : Phase.reported m.params.transport m.actor.phase
        (m.onConnected sessionId link).actor.phase = [.streamSensing] := by
      rw [hp, hphase]
      split <;> rfl
    have hstatus : (m.onConnected sessionId link |>.effectsSince m).filterMap Effect.status? =
        [.streamSensing] := by
      rw [hsince]
      split <;> simp [List.filterMap_cons, List.filterMap_map, Function.comp_def, Effect.status?]
    refine ⟨(SignalStep.connected sessionId link hp).extends_effects, hparams, ?_,
      hstatus.trans hreported.symm, by rw [hshown, hstatus]; rfl, ?_,
      fun _ hd => absurd hd (by rw [hphase]; split <;> simp), fun _ => ?_⟩
    · rw [hp, hphase]
      split
      · exact .created
      · exact .createdBinding
    · rw [hsince]
      split <;> simp [List.filterMap_cons, List.filterMap_map, Function.comp_def, Effect.created?]
    · rw [hsince]
      split <;>
        simp [List.filterMap_cons, List.filterMap_map, Function.comp_def, Effect.serverError?]
  | bind hp =>
    exact Reports.silent (q := [.bindSession m.actor.control (.bindSession m.actor.id)]) rfl
      (by simp [Effect.isSilent]) rfl (by rw [hp]; exact .bind) (by rw [hp]; rfl)
      (fun h => by simp [bind_eq] at h) rfl
  | bound hp =>
    -- the acknowledgement reports the streaming status, then the parked operations reply
    obtain ⟨stream, sub, ctx, outs, heq, -, -⟩ := onBound_eq hp
    rw [heq]
    refine ⟨by simp, rfl, by rw [hp]; exact .bound, ?_, ?_, ?_, fun _ hd => by simp at hd,
      fun _ => ?_⟩
    · simp [effectsSince, hp, Phase.reported, Effect.status?,
        Effect.filterMap_zipWith_reply (f := Effect.status?) (fun _ _ => rfl)]
    · simp [effectsSince, Effect.status?,
        Effect.filterMap_zipWith_reply (f := Effect.status?) (fun _ _ => rfl)]
    · simp [effectsSince, List.filterMap_cons, Effect.created?,
        Effect.filterMap_zipWith_reply (f := Effect.created?) (fun _ _ => rfl)]
    · simp [effectsSince, List.filterMap_cons, Effect.serverError?,
        Effect.filterMap_zipWith_reply (f := Effect.serverError?) (fun _ _ => rfl)]

/-- Every turn of the loop reports as `Reports` says. -/
theorem reports_step (m : Machine) (i : Input) : Reports m (m.step i) i := by
  cases i with
  | command cmd => exact reports_commandStep (handleCommand_step m cmd)
  | signal s =>
    by_cases hd : m.actor.phase = .disconnected
    · rw [step, handleSignal_of_disconnected hd]
      exact Reports.refl m _
    · exact reports_signalStep hd (handleSignal_step hd s)
  | handlesDropped => exact reports_disconnect m rfl
  | writerStopped => exact Reports.stay (q := []) (List.append_nil _).symm (by simp) rfl rfl rfl

/-! ## Along a run -/

/-- A session that has ended stays ended, and phases never go back. -/
theorem rank_le_run (m : Machine) (inputs : List Input) :
    m.actor.phase.rank ≤ (m.run inputs).actor.phase.rank := by
  induction inputs generalizing m with
  | nil => exact Nat.le_refl _
  | cons i inputs ih => exact (reports_step m i).moves.rank_le.trans (ih (m.step i))

theorem params_run (params : SessionParams) (ctx : Context) (inputs : List Input) :
    ((started params ctx).run inputs).params = params :=
  run_induction (P := fun m => m.params = params) (by rw [started_eq])
    (fun m i h => (reports_step m i).params.trans h) inputs

/-- What the listeners have heard agrees with the phase: the statuses trace the phases reached,
    with disconnected once at the end; the status a handle reads is the last one; the create
    request went out once; and the server-error listener was called at most once, only after
    the end and right after the disconnected status. -/
structure Lifecycle (m : Machine) : Prop where
  trail : m.actor.phase ≠ .disconnected →
    m.statuses = Phase.trail m.params.transport m.actor.phase
  ended : m.actor.phase = .disconnected →
    ∃ pre, pre <+: Phase.trail m.params.transport .bound ∧ m.statuses = pre ++ [.disconnected]
  shown : m.shownStatus = m.statuses.getLast?
  created : m.effects.filterMap Effect.created? = [m.params.server]
  unfailed : m.actor.phase ≠ .disconnected → m.effects.filterMap Effect.serverError? = []
  failedOnce : (m.effects.filterMap Effect.serverError?).length ≤ 1
  afterDisconnected : ∀ code message, .serverError code message ∈ m.effects →
    ∃ pre post, m.effects = pre ++ .status .disconnected :: .serverError code message :: post

theorem Reports.statuses_eq {m m' : Machine} {i : Input} (r : Reports m m' i) :
    m'.statuses = m.statuses ++
      Phase.reported m.params.transport m.actor.phase m'.actor.phase := by
  simp only [Machine.statuses]
  rw [eq_append_effectsSince r.grows, List.filterMap_append, r.statuses]

/-- A live state comes only from a live one. -/
theorem Reports.live {m m' : Machine} {i : Input} (r : Reports m m' i)
    (h : m'.actor.phase ≠ .disconnected) : m.actor.phase ≠ .disconnected := by
  intro hd
  have hmoves := r.moves
  rw [hd] at hmoves
  exact h hmoves.of_disconnected

/-- The server error a step reports, if any, stands right after the disconnected status. -/
theorem Reports.afterDisconnected {m m' : Machine} {i : Input} (h : Lifecycle m)
    (r : Reports m m' i) (code : Int) (message : String)
    (hmem : .serverError code message ∈ m'.effects) :
    ∃ pre post,
      m'.effects = pre ++ .status .disconnected :: .serverError code message :: post := by
  rw [eq_append_effectsSince r.grows] at hmem ⊢
  rcases List.mem_append.1 hmem with hold | hnew
  · obtain ⟨pre, post, he⟩ := h.afterDisconnected code message hold
    exact ⟨pre, post ++ m'.effectsSince m, by simp [he]⟩
  · by_cases hc : m.actor.phase ≠ .disconnected ∧ m'.actor.phase = .disconnected ∧ i.isSignal
    · obtain ⟨pre, code', message', hq, hpre⟩ := r.failure hc.1 hc.2.1 hc.2.2
      rw [hq] at hnew ⊢
      rcases List.mem_append.1 hnew with hpre' | hlast
      · exact absurd (List.filterMap_eq_nil_iff.1 hpre _ hpre') (by simp [Effect.serverError?])
      · simp only [List.mem_cons, reduceCtorEq, Effect.serverError.injEq, List.mem_nil_iff,
          or_false, false_or] at hlast
        obtain ⟨rfl, rfl⟩ := hlast
        exact ⟨m.effects ++ pre, [], by simp⟩
    · exact absurd (List.filterMap_eq_nil_iff.1 (r.noFailure hc) _ hnew)
        (by simp [Effect.serverError?])

/-- Each step keeps `Lifecycle`. -/
theorem Lifecycle.step {m m' : Machine} {i : Input} (h : Lifecycle m) (r : Reports m m' i) :
    Lifecycle m' where
  trail := fun h' => by
    rw [r.statuses_eq, r.params, h.trail (r.live h'), Phase.trail_append_reported r.moves h']
  ended := fun hd' => by
    by_cases hd : m.actor.phase = .disconnected
    · -- already over: nothing more is reported
      obtain ⟨pre, hpre, hs⟩ := h.ended hd
      refine ⟨pre, r.params ▸ hpre, ?_⟩
      rw [r.statuses_eq, hs, hd, hd']
      simp [Phase.reported]
    · -- the step ended the session
      refine ⟨Phase.trail m.params.transport m.actor.phase,
        r.params ▸ Phase.trail_isPrefix _ _, ?_⟩
      rw [r.statuses_eq, h.trail hd, hd', Phase.reported_of_ends hd]
  shown := by
    rw [r.shown, h.shown, statuses, statuses, eq_append_effectsSince r.grows,
      List.filterMap_append, List.getLast?_append]
  created := by
    rw [eq_append_effectsSince r.grows, List.filterMap_append, r.created, List.append_nil,
      h.created, r.params]
  unfailed := fun h' => by
    rw [eq_append_effectsSince r.grows, List.filterMap_append, h.unfailed (r.live h'),
      r.noFailure (fun hc => h' hc.2.1)]
    rfl
  failedOnce := by
    rw [eq_append_effectsSince r.grows, List.filterMap_append, List.length_append]
    by_cases hc : m.actor.phase ≠ .disconnected ∧ m'.actor.phase = .disconnected ∧ i.isSignal
    · -- the first and only failure
      obtain ⟨pre, code, message, hq, hpre⟩ := r.failure hc.1 hc.2.1 hc.2.2
      rw [h.unfailed hc.1, hq]
      simp [List.filterMap_append, List.filterMap_cons, hpre, Effect.serverError?]
    · rw [r.noFailure hc]
      simpa using h.failedOnce
  afterDisconnected := r.afterDisconnected h

theorem lifecycle_started (params : SessionParams) (ctx : Context) :
    Lifecycle (started params ctx) := by
  rw [started_eq]
  refine ⟨fun _ => ?_, fun hd => absurd hd (by simp), ?_, ?_, fun _ => ?_, ?_, fun _ _ h => ?_⟩
  · simp [statuses, List.filterMap_cons, Effect.status?, Phase.trail]
  · simp [statuses, List.filterMap_cons, Effect.status?]
  · simp [List.filterMap_cons, Effect.created?]
  · simp [List.filterMap_cons, Effect.serverError?]
  · simp [List.filterMap_cons, Effect.serverError?]
  · simp at h

/-- Every state a session reaches keeps `Lifecycle`. -/
theorem lifecycle_run (params : SessionParams) (ctx : Context) (inputs : List Input) :
    Lifecycle ((started params ctx).run inputs) :=
  run_induction (P := Lifecycle) (lifecycle_started params ctx)
    (fun m i h => h.step (reports_step m i)) inputs

/-- The statuses reported so far lead up to those of a bound session, and are followed by one
    disconnected once the session is over. -/
theorem Lifecycle.statuses_trail {m : Machine} (h : Lifecycle m) :
    ∃ pre, pre <+: Phase.trail m.params.transport .bound ∧
      (m.statuses = pre ∨ m.statuses = pre ++ [.disconnected]) := by
  by_cases hd : m.actor.phase = .disconnected
  · obtain ⟨pre, hpre, hs⟩ := h.ended hd
    exact ⟨pre, hpre, .inr hs⟩
  · exact ⟨_, Phase.trail_isPrefix _ m.actor.phase, .inl (h.trail hd)⟩

/-- A step calls the server-error listener exactly when it is a signal that ends the live
    session. -/
theorem Reports.serverError_iff {m m' : Machine} {i : Input} (r : Reports m m' i) :
    (m'.effectsSince m).filterMap Effect.serverError? ≠ [] ↔
      m.actor.phase ≠ .disconnected ∧ m'.actor.phase = .disconnected ∧ i.isSignal := by
  constructor
  · intro hne
    exact Classical.byContradiction fun hc => hne (r.noFailure hc)
  · rintro ⟨hlive, hd, hs⟩
    obtain ⟨pre, code, message, hq, hpre⟩ := r.failure hlive hd hs
    simp [hq, List.filterMap_append, List.filterMap_cons, hpre, Effect.serverError?]

/-- A session that is over keeps its actor whatever command comes: a bind or an operation is
    refused and a disconnect is answered, and nothing else changes. -/
theorem handleCommand_actor_of_disconnected {m : Machine} (hd : m.actor.phase = .disconnected)
    (cmd : Command) : (m.handleCommand cmd).actor = m.actor := by
  have hs := handleCommand_step m cmd
  generalize m.handleCommand cmd = m' at hs ⊢
  cases hs with
  | disconnect t => rw [reply_actor, disconnect_of_disconnected hd]
  | refuseBind t _ | refuse op t _ => rfl
  | bind t hp | parkBind t hp => simp [hd] at hp
  | alreadyBinding t hp => rcases hp with hp | hp <;> simp [hd] at hp
  | execute op t hp => simp [hd] at hp
  | park op t hp => rcases hp with hp | hp | hp <;> simp [hd] at hp

/-! ## The life of every session -/

/-- The life of a session. Along any run from the start, the phase never goes back, and each
    step moves it at most one phase forward along connecting → connected → binding → bound
    (two when a bind waited for the creation) or ends the session; once over, the session
    ignores every signal and no command changes its actor. The create request goes out exactly
    once. The statuses reported run along connecting, stream-sensing and the transport's
    streaming status, and end with one disconnected when the session is over; the status a
    handle reads is the last of them, or disconnected before any. The server-error listener is
    called at most once, right after the disconnected status, and a step calls it exactly when
    it is a signal that ends the live session, never when a disconnect or the loss of the last
    handle does. -/
theorem session_lifecycle (params : SessionParams) (ctx : Context) (inputs : List Input)
    (i : Input) :
    let m := (started params ctx).run inputs
    (∀ more, m.actor.phase.rank ≤ (m.run more).actor.phase.rank) ∧
    Phase.Moves m.actor.phase (m.step i).actor.phase ∧
    (m.actor.phase = .disconnected →
      (∀ s, m.handleSignal s = m) ∧ ∀ cmd, (m.handleCommand cmd).actor = m.actor) ∧
    m.effects.filterMap Effect.created? = [params.server] ∧
    (∃ pre, pre <+: [.connecting, .streamSensing, Status.streaming params.transport] ∧
      (m.statuses = pre ∨ m.statuses = pre ++ [.disconnected])) ∧
    m.status = m.statuses.getLast?.getD .disconnected ∧
    (m.effects.filterMap Effect.serverError?).length ≤ 1 ∧
    (∀ code message, .serverError code message ∈ m.effects →
      ∃ pre post,
        m.effects = pre ++ .status .disconnected :: .serverError code message :: post) ∧
    (((m.step i).effectsSince m).filterMap Effect.serverError? ≠ [] ↔
      m.actor.phase ≠ .disconnected ∧ (m.step i).actor.phase = .disconnected ∧
        i.isSignal) := by
  intro m
  have hl : Lifecycle m := lifecycle_run params ctx inputs
  have hp : m.params = params := params_run params ctx inputs
  have r := reports_step m i
  refine ⟨rank_le_run m, r.moves, fun hd => ⟨fun s => handleSignal_of_disconnected hd s,
    handleCommand_actor_of_disconnected hd⟩, hp ▸ hl.created, hp ▸ hl.statuses_trail, ?_,
    hl.failedOnce, hl.afterDisconnected, r.serverError_iff⟩
  rw [status, hl.shown]

end Machine

end TlcpLoad
