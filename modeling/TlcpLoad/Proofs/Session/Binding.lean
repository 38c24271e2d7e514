import TlcpLoad.Proofs.Session.Coherence
import TlcpLoad.Proofs.Session.Frames
import TlcpLoad.Proofs.Session.Lifecycle

/-! # When the bind connection is opened

Three inputs ask a session to bind (`Input.triggersBind`): a bind command from a handle, a
LOOP frame on the create stream, and the end of the create stream. They race each other and
the CONOK of the create stream, which creates the session.

The bind connection is opened at most once per session, and only from the connected phase: by
the first trigger processed while connected, or in the step that handles the CONOK when a bind
command came while the session was being created (`opened_step`, with the binds that waited
counted by `bindRequests_of_connecting`). Once the bind has started a trigger is a no-op: the
command is answered `ok`, and the LOOP and the end of the create stream are ignored. Before the
CONOK the command waits, the LOOP is a frame out of place that ends the session, and the end of
the create stream ends it as a transport failure. `bind_opens_once` collects all of this for
every step of every run. -/

namespace TlcpLoad

/-! ## The inputs that ask for the bind -/

/-- Whether an input asks for the bind: a bind command, a LOOP frame on the create stream, or
    the end of the create stream. -/
def Input.triggersBind : Input → Bool
  | .command ⟨.bind, _⟩ => true
  | .signal (.frame .create .rebind) => true
  | .signal (.closed .create) => true
  | _ => false

/-- Whether an input is the CONOK of the create stream, which creates the session. -/
def Input.createsSession : Input → Bool
  | .signal (.frame .create (.sessionOk ..)) => true
  | _ => false

/-- The ticket of a bind command. -/
def Input.bindTicket? : Input → Option Nat
  | .command ⟨.bind, t⟩ => some t
  | _ => none

/-- What a bind trigger is owed once the bind has started: a command is answered `ok`, a LOOP
    or the end of the create stream nothing. -/
def Input.acknowledge : Input → Machine → Machine
  | .command cmd, m => m.reply cmd.ticket (.ok ())
  | _, m => m

namespace Input

/-- The three triggers. -/
theorem triggersBind_iff {i : Input} :
    i.triggersBind ↔ (∃ t, i = .command ⟨.bind, t⟩) ∨ i = .signal (.frame .create .rebind) ∨
      i = .signal (.closed .create) := by
  unfold triggersBind
  split <;> simp_all

theorem createsSession_iff {i : Input} :
    i.createsSession ↔ ∃ sessionId limit keepalive link,
      i = .signal (.frame .create (.sessionOk sessionId limit keepalive link)) := by
  unfold createsSession
  split <;> simp_all

theorem eq_of_bindTicket? {i : Input} {t : Nat} (h : i.bindTicket? = some t) :
    i = .command ⟨.bind, t⟩ := by
  unfold bindTicket? at h
  split at h <;> simp_all

@[simp] theorem acknowledge_actor (i : Input) (m : Machine) : (i.acknowledge m).actor = m.actor := by
  cases i <;> rfl

/-- Acknowledging records at most a reply. -/
theorem acknowledge_effects (i : Input) (m : Machine) :
    ∃ q, (i.acknowledge m).effects = m.effects ++ q ∧ q.filterMap Effect.bindTarget? = [] := by
  cases i with
  | command cmd => exact ⟨_, rfl, rfl⟩
  | signal s | handlesDropped | writerStopped => exact ⟨[], by simp [acknowledge], rfl⟩

end Input

namespace Machine

/-! ## Where a step opens the bind connection -/

/-- The bind connections opened between `m` and a later state `m'`, by where they go. -/
def opened (m' m : Machine) : List PoolKey :=
  (m'.effectsSince m).filterMap Effect.bindTarget?

/-- Whether the step on `i` from `m` opens the bind connection: `i` is a trigger and the session
    is connected, or `i` is the CONOK of the create stream and binds have waited for it. -/
def OpensBind (m : Machine) (i : Input) : Prop :=
  (m.actor.phase = .connected ∧ i.triggersBind) ∨
    (m.actor.phase = .connecting ∧ i.createsSession ∧ m.actor.bindRequests ≠ [])

instance (m : Machine) (i : Input) : Decidable (m.OpensBind i) :=
  inferInstanceAs (Decidable (_ ∨ _))

theorem opened_of_effects_eq {m m' : Machine} {q : List Effect}
    (h : m'.effects = m.effects ++ q) : m'.opened m = q.filterMap Effect.bindTarget? := by
  rw [opened, effectsSince_of_eq_append h]

theorem Calm.opened {m m' : Machine} (h : Calm m m') : m'.opened m = [] := by
  obtain ⟨ctx, q, hq, rfl⟩ := h
  rw [opened_of_effects_eq rfl]
  exact Effect.filterMap_eq_nil_of_unseen Effect.bindTarget?_of_isQuiet hq

theorem Ends.opened {m m' : Machine} (h : Ends m m') : m'.opened m = [] := by
  obtain ⟨m₀, code, message, ⟨ctx, q, hq, rfl⟩, rfl⟩ := h
  rw [opened_of_effects_eq (q := q ++ m.actor.shutdownEffects ++
    [.status .disconnected, .serverError code message]) (by simp [terminate_eq])]
  simp [List.filterMap_append, Effect.filterMap_eq_nil_of_unseen Effect.bindTarget?_of_isQuiet hq,
    Actor.shutdownEffects_bindTarget?, Effect.bindTarget?]

theorem opened_reply {m m' : Machine} (h : m.effects <+: m'.effects) (t : Nat)
    (o : Except ClientError Unit) : (m'.reply t o).opened m = m'.opened m := by
  rw [opened_of_effects_eq (q := m'.effectsSince m ++ [.reply t o])
      (by rw [reply, emit, eq_append_effectsSince h, List.append_assoc]),
    List.filterMap_append, opened]
  simp [Effect.bindTarget?]

theorem opened_disconnect (m : Machine) : m.disconnect.opened m = [] := by
  by_cases hd : m.actor.phase = .disconnected
  · rw [disconnect_of_disconnected hd, opened, effectsSince, List.drop_length, List.filterMap_nil]
  · rw [opened_of_effects_eq (q := .log .info ("[" ++ m.actor.id ++ "] " ++ "Disconnecting") ::
      m.actor.shutdownEffects ++ [.status .disconnected]) (by simp [disconnect_of_live hd])]
    simp only [List.filterMap_append, List.filterMap_cons, Effect.bindTarget?,
      Actor.shutdownEffects_bindTarget?, List.filterMap_nil, List.nil_append]

theorem opened_onBound {m : Machine} (h : m.actor.phase = .binding) : m.onBound.opened m = [] := by
  obtain ⟨stream, sub, ctx, outs, heq, -, -⟩ := onBound_eq h
  rw [heq, opened_of_effects_eq rfl, List.filterMap_cons,
    Effect.filterMap_zipWith_reply (fun _ _ => rfl)]
  rfl

/-- `bind` opens one connection, to the control address, and leaves the session binding. -/
theorem opened_bind (m : Machine) : m.bind.opened m = [m.actor.control] := by
  rw [opened_of_effects_eq (q := [.bindSession m.actor.control (Request.bindSession m.actor.id)])
    rfl]
  rfl

/-- The creation opens the bind connection exactly when binds have waited for it. -/
theorem opened_onConnected (m : Machine) (sessionId : String) (link : Option String) :
    (m.onConnected sessionId link).opened m =
      if m.actor.bindRequests = [] then [] else [(m.onConnected sessionId link).actor.control] := by
  obtain ⟨-, hrec, -⟩ := onConnected_records m sessionId link
  rw [opened, hrec]
  split <;> simp [Effect.bindTarget?, List.filterMap_cons, Function.comp_def]

/-! ## What a signal does to the bind -/

section
variable {m : Machine} (h : m.actor.phase ≠ .disconnected)
include h

/-- A frame of the create stream binds when it is a LOOP and the session is connected, creates
    the session when it is the CONOK and the session is connecting, and is otherwise ignored or
    ends the session. -/
theorem handleFrame_create_cases (e : Event) :
    (e = .rebind ∧ m.actor.phase = .connected ∧ m.handleFrame .create e = m.bind) ∨
    (∃ sessionId limit keepalive link, e = .sessionOk sessionId limit keepalive link ∧
      m.actor.phase = .connecting ∧ m.handleFrame .create e = m.onConnected sessionId link) ∨
    Calm m (m.handleFrame .create e) ∨ Ends m (m.handleFrame .create e) := by
  cases e with
  | parseError cause frame => exact .inr (.inr (.inr (ends_onSessionError h _ _)))
  | requestError reqId code message =>
    exact .inr (.inr (.inr (ends_onRequestError h reqId code message)))
  | sessionOk sessionId limit keepalive link =>
    cases hp : m.actor.phase with
    | disconnected => exact absurd hp h
    | connecting =>
      exact .inr (.inl ⟨sessionId, limit, keepalive, link, rfl, rfl,
        by simp [handleFrame, onCreateFrame, hp]⟩)
    | connected | binding | bound =>
      -- a second CONOK on the create stream is out of place
      refine .inr (.inr (.inr ?_))
      simp only [handleFrame, onCreateFrame, hp]
      exact ends_unexpected h _
  | sessionError code message =>
    refine .inr (.inr (.inr ?_))
    simp only [handleFrame, onCreateFrame]
    exact ends_onSessionError h code message
  | rebind =>
    cases hp : m.actor.phase with
    | disconnected => exact absurd hp h
    | connecting =>
      refine .inr (.inr (.inr ?_))
      simp only [handleFrame, onCreateFrame, hp]
      exact ends_unexpected h _
    | connected => exact .inl ⟨rfl, rfl, by simp [handleFrame, onCreateFrame, hp]⟩
    | binding | bound =>
      refine .inr (.inr (.inl ?_))
      simp only [handleFrame, onCreateFrame, hp]
      exact Calm.refl m
  | subscribeOk subId totalItems totalFields =>
    refine .inr (.inr (.inr ?_))
    simp only [handleFrame, onCreateFrame_subscribeOk]
    exact ends_unexpected h _
  | update subId item values =>
    refine .inr (.inr (.inr ?_))
    simp only [handleFrame, onCreateFrame_update]
    exact ends_unexpected h _

/-- A frame of the bind stream never binds: it is calm, ends the session, or acknowledges the
    bind. -/
theorem handleFrame_bind_cases (e : Event) :
    Calm m (m.handleFrame .bind e) ∨ Ends m (m.handleFrame .bind e) ∨
      (m.actor.phase = .binding ∧ m.handleFrame .bind e = m.onBound) := by
  cases e with
  | parseError cause frame => exact .inr (.inl (ends_onSessionError h _ _))
  | requestError reqId code message => exact .inr (.inl (ends_onRequestError h reqId code message))
  | sessionOk sessionId limit keepalive link =>
    by_cases hp : m.actor.phase = .binding
    · exact .inr (.inr ⟨hp, by simp [handleFrame, onBindFrame, hp]⟩)
    · refine .inr (.inl ?_)
      simp only [handleFrame, onBindFrame, hp, if_false]
      exact ends_unexpected h _
  | sessionError code message =>
    refine .inr (.inl ?_)
    simp only [handleFrame, onBindFrame]
    exact ends_onSessionError h code message
  | rebind =>
    refine .inr (.inl ?_)
    simp only [handleFrame, onBindFrame]
    exact ends_unexpected h _
  | subscribeOk subId totalItems totalFields =>
    by_cases hcur : m.isCurrent subId = true
    · refine .inl ?_
      simp only [handleFrame, onBindFrame, hcur, if_true]
      exact calm_onSubscription m _ _
    · refine .inr (.inl ?_)
      simp only [handleFrame, onBindFrame, hcur, Bool.false_eq_true, if_false]
      exact ends_unexpected h _
  | update subId item values =>
    by_cases hcur : m.isCurrent subId = true
    · refine .inl ?_
      simp only [handleFrame, onBindFrame, hcur, if_true]
      exact calm_onUpdate m _ _
    · refine .inr (.inl ?_)
      simp only [handleFrame, onBindFrame, hcur, Bool.false_eq_true, if_false]
      exact ends_unexpected h _

/-- A frame of the control stream is out of place unless it could not be read or is a request
    error; every one ends the session. -/
theorem handleFrame_control_ends (e : Event) : Ends m (m.handleFrame .control e) := by
  cases e with
  | parseError cause frame => exact ends_onSessionError h _ _
  | requestError reqId code message => exact ends_onRequestError h reqId code message
  | sessionOk _ _ _ _ | sessionError _ _ | rebind | subscribeOk _ _ _ | update _ _ _ =>
    exact ends_unexpected h _

/-- What a signal does to a live session, as far as the bind goes: a trigger while connected
    binds, the CONOK of the create stream while connecting creates the session, and every other
    signal is calm, ends the session, or acknowledges the bind. -/
theorem handleSignal_cases (s : Signal) :
    ((Input.signal s).triggersBind ∧ m.actor.phase = .connected ∧ m.handleSignal s = m.bind) ∨
    ((Input.signal s).createsSession ∧ m.actor.phase = .connecting ∧
      ∃ sessionId link, m.handleSignal s = m.onConnected sessionId link) ∨
    Calm m (m.handleSignal s) ∨ Ends m (m.handleSignal s) ∨
    (m.actor.phase = .binding ∧ m.handleSignal s = m.onBound) := by
  simp only [handleSignal, h, if_false]
  cases s with
  | frame channel e =>
    cases channel with
    | create =>
      rcases handleFrame_create_cases h e with ⟨rfl, hp, hb⟩ | ⟨sid, l, k, link, rfl, hp, hc⟩ | hc |
        he
      · exact .inl ⟨rfl, hp, hb⟩
      · exact .inr (.inl ⟨rfl, hp, sid, link, hc⟩)
      · exact .inr (.inr (.inl hc))
      · exact .inr (.inr (.inr (.inl he)))
    | bind =>
      rcases handleFrame_bind_cases h e with hc | he | hb
      · exact .inr (.inr (.inl hc))
      · exact .inr (.inr (.inr (.inl he)))
      · exact .inr (.inr (.inr (.inr hb)))
    | control => exact .inr (.inr (.inr (.inl (handleFrame_control_ends h e))))
  | bound =>
    by_cases hb : m.actor.phase = .binding
    · exact .inr (.inr (.inr (.inr ⟨hb, rfl⟩)))
    · rw [onBound_of_ne hb]
      exact .inr (.inr (.inl (Calm.refl m)))
  | subscribed => exact .inr (.inr (.inl (calm_onSubscription m _ _)))
  | closed channel =>
    cases channel with
    | create =>
      dsimp only
      split
      · exact .inr (.inr (.inr (.inl (ends_onConnectionError h _))))
      · exact .inl ⟨rfl, by assumption, rfl⟩
      · exact .inr (.inr (.inl (Calm.refl m)))
    | bind => exact .inr (.inr (.inr (.inl (ends_onConnectionError h _))))
    | control => exact .inr (.inr (.inl (Calm.refl m)))
  | failed err => exact .inr (.inr (.inr (.inl (ends_onConnectionError h err))))

end

/-! ## The triggers, phase by phase -/

section
variable {m : Machine} {i : Input}

/-- While connected, a trigger binds, and a bind command is answered `ok`. -/
theorem step_trigger_of_connected (hi : i.triggersBind) (hp : m.actor.phase = .connected) :
    m.step i = i.acknowledge m.bind := by
  rcases Input.triggersBind_iff.1 hi with ⟨t, rfl⟩ | rfl | rfl
  · simp [step, handleCommand, hp, Input.acknowledge]
  · simp [step, handleSignal, handleFrame, onCreateFrame, hp, Input.acknowledge]
  · simp [step, handleSignal, hp, Input.acknowledge]

/-- Once the bind has started, a trigger is a no-op: a bind command is answered `ok`, a LOOP
    and the end of the create stream are ignored. -/
theorem step_trigger_of_binding (hi : i.triggersBind)
    (hp : m.actor.phase = .binding ∨ m.actor.phase = .bound) : m.step i = i.acknowledge m := by
  rcases Input.triggersBind_iff.1 hi with ⟨t, rfl⟩ | rfl | rfl <;>
    rcases hp with hp | hp <;>
    simp [step, handleCommand, handleSignal, handleFrame, onCreateFrame, hp, Input.acknowledge]

variable (hp : m.actor.phase = .connecting)
include hp

/-- Before the CONOK a bind command waits for it. -/
theorem step_bind_of_connecting (t : Nat) :
    m.step (.command ⟨.bind, t⟩) =
      { m with actor := { m.actor with bindRequests := m.actor.bindRequests ++ [t] } } := by
  simp [step, handleCommand, hp]

/-- Before the CONOK a LOOP is out of place and ends the session. -/
theorem step_loop_of_connecting :
    m.step (.signal (.frame .create .rebind)) =
      (m.note .warn "LOOP not expected on Create channel").onSessionError (-1)
        "Message not expected" := by
  simp only [step, handleSignal, handleFrame, onCreateFrame, hp]
  rfl

/-- Before the CONOK the end of the create stream is a transport failure. -/
theorem step_createClosed_of_connecting :
    m.step (.signal (.closed .create)) =
      m.onConnectionError (.transport "create stream closed before CONOK") := by
  simp [step, handleSignal, hp]

/-- The CONOK of the create stream, while connecting, creates the session. -/
theorem step_createsSession (hi : i.createsSession) :
    ∃ sessionId link, m.step i = m.onConnected sessionId link := by
  obtain ⟨sessionId, limit, keepalive, link, rfl⟩ := Input.createsSession_iff.1 hi
  exact ⟨sessionId, link, by simp [step, handleSignal, handleFrame, onCreateFrame, hp]⟩

end

/-! ## The step lemma -/

/-- A step that does not open the bind connection by `OpensBind` opens none. -/
theorem opened_of_not_opensBind {m : Machine} {i : Input} (hb : ¬m.OpensBind i) :
    (m.step i).opened m = [] := by
  cases i with
  | command cmd =>
    simp only [step]
    generalize hm' : m.handleCommand cmd = m'
    cases hm' ▸ handleCommand_step m cmd with
    | disconnect t => rw [opened_reply (disconnect_extends_effects m), opened_disconnect]
    | bind t hp => exact absurd (.inl ⟨hp, rfl⟩) hb
    | alreadyBinding t _ | refuseBind t _ | refuse op t _ =>
      rw [opened_reply (List.prefix_refl _), opened, effectsSince, List.drop_length,
        List.filterMap_nil]
    | parkBind t _ | park op t _ => rw [opened_of_effects_eq (q := []) (by simp)]; rfl
    | execute op t _ =>
      obtain ⟨stream, sub, ctx, hx, -⟩ := execute_eq m op
      rw [opened_reply (by rw [hx]), hx, opened, effectsSince, List.drop_length,
        List.filterMap_nil]
  | signal s =>
    by_cases hd : m.actor.phase = .disconnected
    · rw [step, handleSignal_of_disconnected hd, opened, effectsSince, List.drop_length,
        List.filterMap_nil]
    · simp only [step]
      rcases handleSignal_cases hd s with ⟨ht, hp, _⟩ | ⟨hc, hp, sid, link, heq⟩ | hc | he |
        ⟨hp, heq⟩
      · exact absurd (.inl ⟨hp, ht⟩) hb
      · -- the creation opens nothing when no bind waited for it
        have hnone : m.actor.bindRequests = [] := by
          by_contra hne
          exact hb (.inr ⟨hp, hc, hne⟩)
        rw [heq, opened_onConnected, if_pos hnone]
      · exact hc.opened
      · exact he.opened
      · rw [heq, opened_onBound hp]
  | handlesDropped => exact opened_disconnect m
  | writerStopped =>
    have he : (m.step .writerStopped).effects = m.effects ++ [] := (List.append_nil _).symm
    exact opened_of_effects_eq he

/-- Each step opens the bind connection exactly when `OpensBind` says, once, to where the
    session then binds. -/
theorem opened_step (m : Machine) (i : Input) :
    (m.step i).opened m = if m.OpensBind i then [(m.step i).actor.control] else [] := by
  split
  · rename_i hb
    rcases hb with ⟨hp, ht⟩ | ⟨hp, hc, hr⟩
    · rw [step_trigger_of_connected ht hp]
      obtain ⟨q, hq, hq'⟩ := Input.acknowledge_effects i m.bind
      rw [opened_of_effects_eq (by rw [hq, bind_eq, List.append_assoc]), List.filterMap_append,
        hq', Input.acknowledge_actor]
      rfl
    · obtain ⟨sessionId, link, heq⟩ := step_createsSession hp hc
      rw [heq, opened_onConnected, if_neg hr]
  · exact opened_of_not_opensBind (by assumption)

/-! ## Along a run -/

theorem Phase.eq_connecting_of_rank_le {p : Phase} (h : p.rank ≤ Phase.connecting.rank) :
    p = .connecting := by
  cases p <;> simp_all [Phase.rank]

/-- While a session stays connecting, the only change a step makes to the waiting binds is to
    add the ticket of a bind command. -/
theorem bindRequests_step {m : Machine} {i : Input} (hm : m.actor.phase = .connecting)
    (h' : (m.step i).actor.phase = .connecting) :
    (m.step i).actor.bindRequests = m.actor.bindRequests ++ i.bindTicket?.toList := by
  have hlive : m.actor.phase ≠ .disconnected := by simp [hm]
  cases i with
  | command cmd =>
    simp only [step] at h' ⊢
    generalize hm' : m.handleCommand cmd = m' at h' ⊢
    cases hm' ▸ handleCommand_step m cmd with
    | disconnect t => simp [disconnect_of_live hlive, Actor.shutDown, reply, emit] at h'
    | bind t hp | execute op t hp => simp [hm] at hp
    | alreadyBinding t hp => rcases hp with hp | hp <;> simp [hm] at hp
    | refuseBind t hp | refuse op t hp => exact absurd hp hlive
    | parkBind t _ => simp [Input.bindTicket?]
    | park op t _ => simp [Input.bindTicket?]
  | signal s =>
    simp only [step] at h' ⊢
    generalize hm' : m.handleSignal s = m' at h' ⊢
    cases hm' ▸ handleSignal_step hlive s with
    | calm hc => simp [hc.actor, Input.bindTicket?]
    | ends he =>
      obtain ⟨m₀, code, message, -, rfl⟩ := he
      simp [terminate_eq, Actor.shutDown] at h'
    | connected sessionId link _ =>
      have hphase := (onConnected_records m sessionId link).1
      rw [hphase] at h'
      split at h' <;> cases h'
    | bind hp | bound hp => simp [hm] at hp
  | handlesDropped =>
    simp [step, close, disconnect_of_live hlive, Actor.shutDown] at h'
  | writerStopped => simp [step, stopWriter, Input.bindTicket?]

/-- While a session is being created, the binds waiting are those asked for so far, in order. -/
theorem bindRequests_of_connecting (params : SessionParams) (ctx : Context) (inputs : List Input)
    (h : ((started params ctx).run inputs).actor.phase = .connecting) :
    ((started params ctx).run inputs).actor.bindRequests = inputs.filterMap Input.bindTicket? := by
  induction inputs using List.reverseRecOn with
  | nil => simp [started_eq]
  | append_singleton inputs i ih =>
    rw [run_append, run_cons, run_nil] at h ⊢
    -- phases never go back, so the session was connecting before this step too
    have hpre : ((started params ctx).run inputs).actor.phase = .connecting :=
      Phase.eq_connecting_of_rank_le (h ▸ (reports_step _ i).moves.rank_le)
    rw [bindRequests_step hpre h, ih hpre, List.filterMap_append]
    cases hi : i.bindTicket? <;> simp [hi]

/-- In a run, a step opens a bind when a trigger comes while connected, or when the session is
    created with bind commands among the inputs so far. -/
theorem opensBind_run_iff (params : SessionParams) (ctx : Context) (inputs : List Input)
    (i : Input) :
    ((started params ctx).run inputs).OpensBind i ↔
      (((started params ctx).run inputs).actor.phase = .connected ∧ i.triggersBind) ∨
      (((started params ctx).run inputs).actor.phase = .connecting ∧ i.createsSession ∧
        ∃ t, Input.command ⟨.bind, t⟩ ∈ inputs) := by
  refine or_congr Iff.rfl (and_congr_right fun hp => and_congr_right fun _ => ?_)
  -- the binds waiting at the CONOK are the bind commands so far
  rw [bindRequests_of_connecting params ctx inputs hp, Ne, List.filterMap_eq_nil_iff]
  constructor
  · intro hne
    obtain ⟨a, ha, hsome⟩ : ∃ a ∈ inputs, a.bindTicket? ≠ none := by simpa using hne
    obtain ⟨t, ht⟩ := Option.ne_none_iff_exists'.1 hsome
    exact ⟨t, Input.eq_of_bindTicket? ht ▸ ha⟩
  · rintro ⟨t, ht⟩ hnone
    exact absurd (hnone _ ht) (by simp [Input.bindTicket?])

/-- The bind connection is opened at most once per session and only from the connected phase:
    a step opens it exactly when it is a bind trigger (a bind command, a LOOP of the create
    stream, the end of the create stream) processed while connected, or the CONOK of the create
    stream processed while connecting after a bind command came, and then to where the session
    binds. A trigger processed while connected binds, and a bind command is answered `ok`; once
    the bind has started a trigger is a no-op, a bind command answered `ok` and a LOOP or the end
    of the create stream ignored. Before the CONOK a bind command waits, a LOOP ends the session
    as a frame out of place (`Message not expected`), and the end of the create stream ends it
    as a transport failure. -/
theorem bind_opens_once (params : SessionParams) (ctx : Context) (inputs : List Input)
    (i : Input) :
    let m := (started params ctx).run inputs
    let m' := m.step i
    let binds := (m.actor.phase = .connected ∧ i.triggersBind) ∨
      (m.actor.phase = .connecting ∧ i.createsSession ∧ ∃ t, Input.command ⟨.bind, t⟩ ∈ inputs)
    ((binds ∧ m'.opened m = [m'.actor.control]) ∨ (¬binds ∧ m'.opened m = [])) ∧
    (m'.effects.filterMap Effect.bindTarget?).length ≤ 1 ∧
    (i.triggersBind → m.actor.phase = .connected → m' = i.acknowledge m.bind) ∧
    (i.triggersBind → m.actor.phase = .binding ∨ m.actor.phase = .bound →
      m' = i.acknowledge m) ∧
    (m.actor.phase = .connecting →
      (∀ t, m.step (.command ⟨.bind, t⟩) =
        { m with actor := { m.actor with bindRequests := m.actor.bindRequests ++ [t] } }) ∧
      m.step (.signal (.frame .create .rebind)) =
        (m.note .warn "LOOP not expected on Create channel").onSessionError (-1)
          "Message not expected" ∧
      m.step (.signal (.closed .create)) =
        m.onConnectionError (.transport "create stream closed before CONOK")) := by
  intro m m' binds
  have hopens : m.OpensBind i ↔ binds := opensBind_run_iff params ctx inputs i
  have hstep := opened_step m i
  refine ⟨?_, ?_, step_trigger_of_connected, step_trigger_of_binding,
    fun hp => ⟨step_bind_of_connecting hp, step_loop_of_connecting hp,
      step_createClosed_of_connecting hp⟩⟩
  · by_cases hb : m.OpensBind i
    · exact .inl ⟨hopens.1 hb, by rw [hstep, if_pos hb]⟩
    · exact .inr ⟨mt hopens.2 hb, by rw [hstep, if_neg hb]⟩
  · have ht := (tracked_run params ctx (inputs ++ [i])).once
    rwa [run_append, run_cons, run_nil] at ht

end Machine

end TlcpLoad
