import TlcpLoad.Proofs.Session.Coherence

/-! # Every command is answered once

A command is answered at once or parked: a bind waits in `bindRequests` while the session is
being created, an operation waits in `pending` until the stream is bound. `Answered` says, for
each input and each phase, which replies a step sends and what it leaves parked, and every step
of a coherent actor does what it says (`answered_step`).

The ledger of tickets follows from it alone: the tickets answered so far and those still parked
are, up to order, the tickets of the commands taken in (`ledger_run`). Nothing is parked once
the session is bound or over, so from then on every command so far has had exactly one reply. -/

namespace TlcpLoad

open scoped List

/-- The tickets a session still owes a reply: the parked binds, then the waiting operations. -/
def Actor.parked (a : Actor) : List Nat :=
  a.bindRequests ++ a.pending.map Prod.snd

/-- The replies that fail everything parked, as shutting down sends them. -/
def Actor.failures (a : Actor) : List (Nat × Except ClientError Unit) :=
  a.parked.map (·, .error .disconnected)

/-- The tickets of an input that expects a reply. -/
def Input.tickets : Input → List Nat
  | .command cmd => [cmd.ticket]
  | _ => []

namespace Machine

/-- The replies sent since `m`, in order. -/
def repliesSince (m' m : Machine) : List (Nat × Except ClientError Unit) :=
  (m'.effectsSince m).filterMap Effect.reply?

/-- The tickets answered so far, in order. -/
def replied (m : Machine) : List Nat :=
  (m.effects.filterMap Effect.reply?).map Prod.fst

/-- What a step from `m` to `m'` answers and what it leaves parked, by input and phase.

    A disconnect is answered `ok` at once, after what was parked is failed. A bind is answered
    at once, `ok` unless the session is over, except while connecting, when it is parked. An
    operation runs at once when bound, is refused when the session is over, and is parked
    before. A signal answers only when it moves the session on: its end fails what was parked,
    its creation answers the parked binds `ok` once the bind connection is opened, and the bind
    acknowledgement runs the parked operations in the order they came. The writer's end answers
    nothing and parks nothing. -/
def Answered (m m' : Machine) : Input → Prop
  | .command ⟨.disconnect, t⟩ =>
    m'.repliesSince m = m.actor.failures ++ [(t, .ok ())] ∧ m'.actor.parked = []
  | .command ⟨.bind, t⟩ =>
    match m.actor.phase with
    | .connecting =>
      m'.repliesSince m = [] ∧ m'.actor.bindRequests = m.actor.bindRequests ++ [t] ∧
        m'.actor.pending = m.actor.pending
    | .disconnected =>
      m'.repliesSince m = [(t, .error .disconnected)] ∧ m'.actor.parked = m.actor.parked
    | _ => m'.repliesSince m = [(t, .ok ())] ∧ m'.actor.parked = m.actor.parked
  | .command ⟨.whenBound op, t⟩ =>
    match m.actor.phase with
    | .bound => m'.repliesSince m = [(t, (m.execute op).1)] ∧ m'.actor.parked = m.actor.parked
    | .disconnected =>
      m'.repliesSince m = [(t, .error .disconnected)] ∧ m'.actor.parked = m.actor.parked
    | _ =>
      m'.repliesSince m = [] ∧ m'.actor.bindRequests = m.actor.bindRequests ∧
        m'.actor.pending = m.actor.pending ++ [(op, t)]
  | .signal _ =>
    match m.actor.phase, m'.actor.phase with
    | _, .disconnected => m'.repliesSince m = m.actor.failures ∧ m'.actor.parked = []
    | .connecting, .connected | .connecting, .binding =>
      m'.repliesSince m = m.actor.bindRequests.map (·, .ok ()) ∧
        (m.actor.bindRequests ≠ [] → ∃ pre target request post,
          m'.effectsSince m = pre ++ .bindSession target request :: post ∧
          pre.filterMap Effect.reply? = []) ∧
        m'.actor.bindRequests = [] ∧ m'.actor.pending = m.actor.pending
    | .binding, .bound =>
      (m'.repliesSince m).map Prod.fst = m.actor.pending.map Prod.snd ∧ m'.actor.parked = []
    | _, _ => m'.repliesSince m = [] ∧ m'.actor.parked = m.actor.parked
  | .handlesDropped => m'.repliesSince m = m.actor.failures ∧ m'.actor.parked = []
  | .writerStopped => m'.repliesSince m = [] ∧ m'.actor.parked = m.actor.parked

/-! ## The replies a step sends -/

theorem repliesSince_of_eq_append {m m' : Machine} {q : List Effect}
    (h : m'.effects = m.effects ++ q) : m'.repliesSince m = q.filterMap Effect.reply? := by
  rw [repliesSince, effectsSince_of_eq_append h]

theorem repliesSince_of_effects_eq {m m' : Machine} (h : m'.effects = m.effects) :
    m'.repliesSince m = [] := by
  rw [repliesSince_of_eq_append (q := []) (by rw [h, List.append_nil]), List.filterMap_nil]

@[simp] theorem repliesSince_self (m : Machine) : m.repliesSince m = [] :=
  repliesSince_of_effects_eq rfl

/-- A reply after a step adds itself to the step's replies. -/
theorem repliesSince_reply {m m' : Machine} (h : m.effects <+: m'.effects) (t : Nat)
    (o : Except ClientError Unit) :
    (m'.reply t o).repliesSince m = m'.repliesSince m ++ [(t, o)] := by
  have he : (m'.reply t o).effects = m.effects ++ (m'.effectsSince m ++ [.reply t o]) := by
    rw [← List.append_assoc, ← eq_append_effectsSince h]
    rfl
  rw [repliesSince_of_eq_append he]
  simp [repliesSince, List.filterMap_append, Effect.reply?]

/-- A reply sent at once is all that its step answers. -/
@[simp] theorem repliesSince_reply_self (m : Machine) (t : Nat) (o : Except ClientError Unit) :
    (m.reply t o).repliesSince m = [(t, o)] := by
  rw [repliesSince_reply (List.prefix_refl _), repliesSince_self, List.nil_append]

/-- The bind operation answers nothing itself. -/
theorem repliesSince_bind (m : Machine) : m.bind.repliesSince m = [] := by
  rw [repliesSince_of_eq_append (q := [.bindSession m.actor.control (.bindSession m.actor.id)]) rfl]
  rfl

end Machine

namespace Actor

theorem shutdownEffects_failures (a : Actor) :
    a.shutdownEffects.filterMap Effect.reply? = a.failures := by
  simp [shutdownEffects_reply?, failures, parked, Function.comp_def]

/-- Binds are parked only while connecting. -/
theorem Coherent.bindRequests_eq_nil {a : Actor} (h : a.Coherent) (hp : a.phase ≠ .connecting) :
    a.bindRequests = [] :=
  Classical.byContradiction fun hne => hp (h.bindRequests hne)

/-- Nothing is parked once the session is bound or over. -/
theorem Coherent.parked_eq_nil {a : Actor} (h : a.Coherent)
    (hp : a.phase = .bound ∨ a.phase = .disconnected) : a.parked = [] := by
  have hb : a.bindRequests = [] := h.bindRequests_eq_nil (by rcases hp with hp | hp <;> simp [hp])
  have hw : a.pending = [] := Classical.byContradiction fun hne => by
    rcases h.pending hne with hq | hq | hq <;> rcases hp with hp | hp <;> simp [hp] at hq
  simp [parked, hb, hw]

end Actor

namespace Machine

/-- Ending the session, or asking to end one that is over, fails what was parked. -/
theorem disconnect_answers {m : Machine} (hc : m.actor.Coherent) :
    m.disconnect.repliesSince m = m.actor.failures ∧ m.disconnect.actor.parked = [] := by
  by_cases hd : m.actor.phase = .disconnected
  · have hnil := hc.parked_eq_nil (.inr hd)
    rw [disconnect_of_disconnected hd]
    simp [Actor.failures, hnil]
  · rw [disconnect_of_live hd]
    refine ⟨?_, rfl⟩
    simp [repliesSince, effectsSince, List.filterMap_append, List.filterMap_cons,
      Actor.shutdownEffects_failures, Effect.reply?]

/-- A failure ends the session and fails what was parked. -/
theorem Ends.answers {m m' : Machine} (h : Ends m m') :
    m'.actor.phase = .disconnected ∧ m'.repliesSince m = m.actor.failures ∧
      m'.actor.parked = [] := by
  obtain ⟨m₀, code, message, ⟨ctx, q, hq, rfl⟩, rfl⟩ := h
  rw [terminate_eq]
  refine ⟨rfl, ?_, rfl⟩
  simp [repliesSince, effectsSince, List.filterMap_append, List.filterMap_cons,
    Effect.filterMap_eq_nil_of_unseen Effect.reply?_of_isQuiet hq, Actor.shutdownEffects_failures,
    Effect.reply?]

/-! ## Every step answers as `Answered` says -/

theorem answered_commandStep {m m' : Machine} {cmd : Command} (hc : m.actor.Coherent)
    (hs : CommandStep m cmd m') : Answered m m' (.command cmd) := by
  cases hs with
  | disconnect t =>
    obtain ⟨hsent, hparked⟩ := disconnect_answers hc
    have hreply := repliesSince_reply (disconnect_extends_effects m) t (.ok ())
    simp [Answered, hreply, hsent, hparked]
  | bind t hp =>
    have hsent := @repliesSince_reply m m.bind (List.prefix_append _ _) t (.ok ())
    have hparked : m.bind.actor.parked = m.actor.parked := rfl
    simp [Answered, hp, hsent, hparked, repliesSince_bind]
  | alreadyBinding t hp => rcases hp with hp | hp <;> simp [Answered, hp]
  | refuseBind t hp | refuse op t hp => simp [Answered, hp]
  | parkBind t hp => simp [Answered, hp, repliesSince_of_effects_eq]
  | execute op t hp =>
    -- the operation changes the stream, never the record or what is parked
    obtain ⟨stream, sub, ctx, hx, -⟩ := execute_eq m op
    have hrun : (m.execute op).2.repliesSince m = [] := repliesSince_of_effects_eq (by rw [hx])
    have hsent := @repliesSince_reply m (m.execute op).2 (by rw [hx])
      t (m.execute op).1
    have hparked : (m.execute op).2.actor.parked = m.actor.parked := by rw [hx]; rfl
    simp [Answered, hp, hsent, hrun, hparked]
  | park op t hp =>
    rcases hp with hp | hp | hp <;> simp [Answered, hp, repliesSince_of_effects_eq]

theorem filterMap_reply?_map (ts : List Nat) (o : Except ClientError Unit) :
    (ts.map (Effect.reply · o)).filterMap Effect.reply? = ts.map (·, o) := by
  induction ts with
  | nil => rfl
  | cons t ts ih => simp [Effect.reply?, ih]

theorem filterMap_reply?_zipWith (ops : List (Deferred × Nat))
    {outs : List (Except ClientError Unit)} (hlen : outs.length = ops.length) :
    ((List.zipWith (fun p o => Effect.reply p.2 o) ops outs).filterMap Effect.reply?).map
      Prod.fst = ops.map Prod.snd := by
  induction ops generalizing outs with
  | nil => simp
  | cons op ops ih =>
    cases outs with
    | nil => simp at hlen
    | cons o outs => simp [Effect.reply?, ih (Nat.succ.inj hlen)]

theorem answered_signalStep {m m' : Machine} (hc : m.actor.Coherent) (s : Signal)
    (hs : SignalStep m m') : Answered m m' (.signal s) := by
  cases hs with
  | calm hcalm =>
    obtain ⟨ctx, q, hq, rfl⟩ := hcalm
    have hsent : ({ m with ctx, effects := m.effects ++ q } : Machine).repliesSince m = [] := by
      rw [repliesSince_of_eq_append rfl]
      exact Effect.filterMap_eq_nil_of_unseen Effect.reply?_of_isQuiet hq
    have hnil : m.actor.phase = .disconnected → m.actor.parked = [] :=
      fun hd => hc.parked_eq_nil (.inr hd)
    -- the phase stays, whichever it is
    cases hp : m.actor.phase <;> simp [Answered, hp, hsent, hnil, Actor.failures]
  | ends he =>
    obtain ⟨hd, hsent, hparked⟩ := he.answers
    simp [Answered, hd, hsent, hparked]
  | connected sessionId link hp =>
    obtain ⟨hphase, hsince, hb', hw, -, -⟩ := onConnected_records m sessionId link
    by_cases hb : m.actor.bindRequests = []
    · rw [if_pos hb] at hphase hsince
      simp [Answered, hp, hphase, hb, hb', hw, repliesSince, hsince, Effect.reply?]
    · -- the binds that waited are answered once the bind connection is opened
      rw [if_neg hb] at hphase hsince
      simp only [Answered, hp, hphase]
      refine ⟨?_, fun _ => ⟨[.status .streamSensing], _, _, _, hsince, rfl⟩, hb', hw⟩
      simp only [repliesSince, hsince, List.filterMap_cons, Effect.reply?]
      exact filterMap_reply?_map _ _
  | bind hp =>
    have hphase : m.bind.actor.phase = .binding := rfl
    have hparked : m.bind.actor.parked = m.actor.parked := rfl
    simp [Answered, hp, hphase, hparked, repliesSince_bind]
  | bound hp =>
    -- the waiting operations run in the order they came
    obtain ⟨stream, sub, ctx, outs, heq, -, hlen⟩ := onBound_eq hp
    have hphase : m.onBound.actor.phase = .bound := by rw [heq]
    have hsince : m.onBound.effectsSince m = .status (Status.streaming m.params.transport) ::
        List.zipWith (fun p o => .reply p.2 o) m.actor.pending outs :=
      effectsSince_of_eq_append (by rw [heq])
    simp only [Answered, hp, hphase]
    refine ⟨?_, ?_⟩
    · simp only [repliesSince, hsince, List.filterMap_cons, Effect.reply?]
      exact filterMap_reply?_zipWith _ hlen
    · simp [heq, Actor.parked, hc.bindRequests_eq_nil (by simp [hp])]

/-- Every turn of the loop answers as `Answered` says. -/
theorem answered_step {m : Machine} (hc : m.actor.Coherent) (i : Input) :
    Answered m (m.step i) i := by
  cases i with
  | command cmd => exact answered_commandStep hc (handleCommand_step m cmd)
  | signal s =>
    by_cases hd : m.actor.phase = .disconnected
    · -- a session that is over ignores the signal
      rw [step, handleSignal_of_disconnected hd]
      exact answered_signalStep hc s (.calm (Calm.refl m))
    · exact answered_signalStep hc s (handleSignal_step hd s)
  | handlesDropped => exact disconnect_answers hc
  | writerStopped => exact ⟨repliesSince_of_effects_eq rfl, rfl⟩

/-! ## The ledger of tickets -/

/-- A command answered at once leaves the parked tickets as they were. -/
theorem ledger_at_once {m m' : Machine} {t : Nat} {o : Except ClientError Unit}
    (hsent : m'.repliesSince m = [(t, o)]) (hparked : m'.actor.parked = m.actor.parked) :
    (m'.repliesSince m).map Prod.fst ++ m'.actor.parked ~ m.actor.parked ++ [t] := by
  rw [hsent, hparked]
  exact (List.perm_append_singleton t _).symm

/-- What a step answers and what it leaves parked account, up to order, for what was parked
    and the input's ticket. -/
theorem Answered.ledger {m m' : Machine} {i : Input} (hc : m.actor.Coherent)
    (h : Answered m m' i) :
    (m'.repliesSince m).map Prod.fst ++ m'.actor.parked ~ m.actor.parked ++ i.tickets := by
  cases i with
  | command cmd =>
    obtain ⟨op, t⟩ := cmd
    cases op with
    | disconnect =>
      obtain ⟨hsent, hparked⟩ := h
      simp [hsent, hparked, Actor.failures, Input.tickets, Function.comp_def]
    | bind =>
      simp only [Answered] at h
      split at h
      · -- parked behind the earlier binds, ahead of the waiting operations
        obtain ⟨hsent, hb, hw⟩ := h
        simp only [hsent, hb, hw, Actor.parked, Input.tickets, List.map_nil, List.nil_append,
          List.append_assoc]
        exact List.perm_append_comm.append_left _
      · exact ledger_at_once h.1 h.2
      · exact ledger_at_once h.1 h.2
    | whenBound op =>
      simp only [Answered] at h
      split at h
      · exact ledger_at_once h.1 h.2
      · exact ledger_at_once h.1 h.2
      · obtain ⟨hsent, hb, hw⟩ := h
        simp [hsent, hb, hw, Actor.parked, Input.tickets]
  | signal s =>
    -- by the move of the phase: the end, the creation (two ways), the acknowledgement, none
    simp only [Answered] at h
    split at h
    · obtain ⟨hsent, hparked⟩ := h
      simp [hsent, hparked, Actor.failures, Input.tickets, Function.comp_def]
    case h_2 | h_3 =>
      obtain ⟨hsent, -, hb, hw⟩ := h
      simp [hsent, hb, hw, Actor.parked, Input.tickets, Function.comp_def]
    · -- no bind was parked while binding
      next hp _ =>
      obtain ⟨hsent, hparked⟩ := h
      rw [hsent, hparked]
      simp [Actor.parked, Input.tickets, hc.bindRequests_eq_nil (by simp [hp])]
    · obtain ⟨hsent, hparked⟩ := h
      simp [hsent, hparked, Input.tickets]
  | handlesDropped =>
    obtain ⟨hsent, hparked⟩ := h
    simp [hsent, hparked, Actor.failures, Input.tickets, Function.comp_def]
  | writerStopped =>
    obtain ⟨hsent, hparked⟩ := h
    simp [hsent, hparked, Input.tickets]

/-- One turn of the loop keeps the ledger: the tickets answered and parked grow by the input's
    ticket. -/
theorem ledger_step {m : Machine} (hc : m.actor.Coherent) (i : Input) :
    (m.step i).replied ++ (m.step i).actor.parked ~ m.replied ++ m.actor.parked ++ i.tickets := by
  have hreplied : (m.step i).replied = m.replied ++ ((m.step i).repliesSince m).map Prod.fst := by
    rw [replied, eq_append_effectsSince (step_extends_effects m i), List.filterMap_append,
      List.map_append]
    rfl
  rw [hreplied, List.append_assoc, List.append_assoc]
  exact ((answered_step hc i).ledger hc).append_left m.replied

/-- Along a run the tickets answered and parked are, up to order, those there were and the
    tickets of the commands taken in. -/
theorem ledger_run {m : Machine} (hc : m.actor.Coherent) (inputs : List Input) :
    (m.run inputs).replied ++ (m.run inputs).actor.parked ~
      m.replied ++ m.actor.parked ++ inputs.flatMap Input.tickets := by
  induction inputs generalizing m with
  | nil => simp
  | cons i inputs ih =>
    calc (m.run (i :: inputs)).replied ++ (m.run (i :: inputs)).actor.parked
        ~ (m.step i).replied ++ (m.step i).actor.parked ++ inputs.flatMap Input.tickets :=
          ih (coherent_step hc i)
      _ ~ m.replied ++ m.actor.parked ++ i.tickets ++ inputs.flatMap Input.tickets :=
          (ledger_step hc i).append_right _
      _ = m.replied ++ m.actor.parked ++ (i :: inputs).flatMap Input.tickets := by
          simp [List.flatMap_cons]

/-! ## Every command is answered once -/

/-- Every command of a session is answered exactly once. Along any run from the start, the
    tickets answered and those still parked are, up to order, the tickets of the commands taken
    in, so no ticket is answered twice or dropped; nothing is parked once the session is bound
    or over; and the next step answers as `Answered` says. A disconnect is answered at once; a
    bind at once, unless the session is still being created, and then when it is created, after
    the bind connection is opened, or when it ends; an operation at once when bound, and
    otherwise when the bind is acknowledged, in the order the operations came, or when the
    session ends. -/
theorem commands_answered_once (params : SessionParams) (ctx : Context) (inputs : List Input)
    (i : Input) :
    let m := (started params ctx).run inputs
    m.replied ++ m.actor.parked ~ inputs.flatMap Input.tickets ∧
    (m.actor.phase = .bound ∨ m.actor.phase = .disconnected → m.actor.parked = []) ∧
    Answered m (m.step i) i := by
  intro m
  have hc : m.actor.Coherent := coherent_run params ctx inputs
  have hstart : (started params ctx).replied ++ (started params ctx).actor.parked = [] := by
    simp [started_eq, replied, Actor.parked, Effect.reply?]
  have hledger := ledger_run (coherent_started params ctx) inputs
  rw [hstart, List.nil_append] at hledger
  exact ⟨hledger, hc.parked_eq_nil, answered_step hc i⟩

end Machine

end TlcpLoad
