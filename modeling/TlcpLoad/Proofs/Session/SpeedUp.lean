import Mathlib
import TlcpLoad.Proofs.Session.Subscribing
import TlcpLoad.Proofs.Session.Coherence
import TlcpLoad.Session.Inbound

/-! # Speeding up a bound stream

A speed-up is for good. On a connection, the flag it sets is never cleared: whatever sends and
closes follow, the link refuses every request with `spedUp` (`checkWritable_useAll`), so a send
enqueues nothing. On the read side, every loop that reads a bind stream through a sped-up link
counts the chunk and decodes nothing (`bindChunk_of_spedUp`, `readBind_of_spedUp`).

In the session, once a speed-up has run on the bound stream, the session stays bound with that
sped-up stream until it ends (`StaysSpedUp`). While it is bound, a message, and a subscription
when none is active, is refused with `spedUp`, leaving the session bound and reporting nothing
but the reply. Once the session is over, the same commands are refused with `disconnected`
instead: the actor answers them before it looks at any connection. -/

namespace TlcpLoad

/-! ## The link of a connection -/

/-- What the session does with a connection it holds. -/
inductive Use where
  | send (r : Request)
  | speedUp
  | close

namespace Use

def isSpeedUp : Use → Bool
  | .speedUp => true
  | _ => false

def isClose : Use → Bool
  | .close => true
  | _ => false

end Use

namespace Connection

/-- The connection after one use; a refused send leaves it as it was. -/
def use (c : Connection) : Use → Connection
  | .send r =>
    match c.send r with
    | .ok c' => c'
    | .error _ => c
  | .speedUp => c.speedUp
  | .close => c.close

/-- A use sets the flags it stands for and clears none. -/
theorem link_use (c : Connection) (u : Use) :
    (c.use u).link =
      { spedUp := c.link.spedUp || u.isSpeedUp, closed := c.link.closed || u.isClose } := by
  cases u with
  | send r =>
    simp only [use, Use.isSpeedUp, Use.isClose, Bool.or_false]
    cases hsend : c.send r with
    | ok c' =>
      obtain ⟨-, -, rfl⟩ := send_eq_ok hsend
      rfl
    | error e => rfl
  | speedUp => simp [use, speedUp, Use.isSpeedUp, Use.isClose]
  | close => simp [use, close, Use.isSpeedUp, Use.isClose]

/-- Along any sequence of uses, each flag is set exactly when it was set before or some use
    set it. -/
theorem link_useAll (c : Connection) (uses : List Use) :
    (uses.foldl use c).link =
      { spedUp := c.link.spedUp || uses.any Use.isSpeedUp,
        closed := c.link.closed || uses.any Use.isClose } := by
  induction uses generalizing c with
  | nil => simp
  | cons u uses ih =>
    rw [List.foldl_cons, ih, link_use]
    simp [Bool.or_assoc]

/-- Whether a connection takes requests after a sequence of uses: not once sped up, whatever
    else happened, and otherwise not once closed. -/
theorem checkWritable_useAll (c : Connection) (uses : List Use) :
    (uses.foldl use c).link.checkWritable =
      if c.link.spedUp || uses.any Use.isSpeedUp then .error .spedUp
      else if c.link.closed || uses.any Use.isClose then .error .disconnected
      else .ok () := by
  rw [link_useAll]
  rfl

/-- A sped-up connection refuses a request and stays as it was: nothing is enqueued. -/
theorem use_send_of_spedUp {c : Connection} (h : c.link.spedUp = true) (r : Request) :
    c.send r = .error .spedUp ∧ c.use (.send r) = c := by
  have hsend := send_of_spedUp h r
  refine ⟨hsend, ?_⟩
  simp [use, hsend]

end Connection

/-! ## Reading through a sped-up link -/

namespace Inbound

/-- A chunk that is not decoded leaves the frame reader and the signals sent alone. -/
theorem take_skip (i : Inbound) (counted : Bool) (chunk : List UInt8) :
    i.take counted false chunk =
      { i with stats := if counted then i.stats.add .bytesRead chunk.length.toUInt64 else i.stats } :=
  rfl

/-- Every loop that reads a bind stream counts each chunk, and decodes it exactly when the
    client does not ignore data, the link is not sped up, and the loop is not the raw
    WebSocket one. -/
theorem bindChunk_eq (i : Inbound) (transport : Transport) (options : ClientOptions)
    (link : Link) (chunk : List UInt8) :
    i.bindChunk transport options link chunk =
      i.take true (!options.ignoreData && !link.spedUp &&
        !(transport == .wsStreaming && options.rawSocket)) chunk := by
  have hhttp : (Transport.httpStreaming == .wsStreaming) = false := by decide
  cases transport <;> cases hi : options.ignoreData <;> cases hr : options.rawSocket <;>
    simp [bindChunk, httpChunk, wsChunk, countChunk, spedUp, hi, hr, hhttp]

/-- A bind-stream chunk read through a sped-up link is counted and not decoded. -/
theorem bindChunk_of_spedUp (i : Inbound) (transport : Transport) (options : ClientOptions)
    {link : Link} (h : link.spedUp = true) (chunk : List UInt8) :
    i.bindChunk transport options link chunk =
      { i with stats := i.stats.add .bytesRead chunk.length.toUInt64 } := by
  rw [bindChunk_eq, h]
  simp [take_skip]

theorem add_bytesRead_add (s : Stats) (a b : UInt64) :
    (s.add .bytesRead a).add .bytesRead b = s.add .bytesRead (a + b) := by
  simp [Stats.add, UInt64.add_assoc]

/-- Reading chunks through a sped-up link only counts them: the bytes read grow by their total
    length, modulo 2^64, and no frame is decoded or signalled. -/
theorem readBind_of_spedUp (i : Inbound) (transport : Transport) (options : ClientOptions)
    {reads : List (Link × List UInt8)} (h : ∀ r ∈ reads, r.1.spedUp = true) :
    i.readBind transport options reads =
      { i with stats :=
        i.stats.add .bytesRead (reads.map fun (r : Link × List UInt8) => r.2.length).sum.toUInt64 } := by
  induction reads generalizing i with
  | nil => simp [readBind, Stats.add]
  | cons r reads ih =>
    -- the first chunk is only counted, and so are the rest
    have hfirst := bindChunk_of_spedUp i transport options (h r List.mem_cons_self) r.2
    have hrest := ih (i.bindChunk transport options r.1 r.2)
      fun r' hr' => h r' (List.mem_cons_of_mem r hr')
    simp only [readBind, List.foldl_cons] at hrest ⊢
    rw [hrest, hfirst]
    simp [add_bytesRead_add, UInt64.ofNat_add]

end Inbound

/-! ## The session after a speed-up -/

namespace Machine

theorem Ends.phase_eq {m m' : Machine} (h : Ends m m') : m'.actor.phase = .disconnected := by
  obtain ⟨m₀, code, message, -, rfl⟩ := h
  simp [terminate_eq, Actor.shutDown]

theorem disconnect_phase (m : Machine) : m.disconnect.actor.phase = .disconnected := by
  by_cases hd : m.actor.phase = .disconnected
  · rwa [disconnect_of_disconnected hd]
  · simp [disconnect_of_live hd, Actor.shutDown]

section SpedUp

variable {m : Machine} {c : Connection}

/-- On a sped-up stream a message is refused. Its request id is used up all the same. -/
theorem execute_sendMessage_of_spedUp (hs : m.actor.stream = some c) (hc : c.link.spedUp = true)
    (text : String) :
    m.execute (.sendMessage text) = (.error .spedUp, { m with ctx := m.ctx.nextReqId.2 }) := by
  simp [execute, hs, Connection.send_of_spedUp hc]

/-- On a sped-up stream a first subscription is refused, after it was recorded. -/
theorem execute_subscribe_of_spedUp (hs : m.actor.stream = some c) (hc : c.link.spedUp = true)
    (hsub : m.actor.subscription = none) (sub : Subscription) (listener : Nat) :
    m.execute (.subscribe sub listener) = (.error .spedUp, m.recordSubscription sub listener) :=
  execute_subscribe_of_send_error hs hsub (Connection.send_of_spedUp hc _) listener

/-- Running an operation on a sped-up stream keeps a sped-up stream, and the phase. -/
theorem execute_keeps_spedUp (hs : m.actor.stream = some c) (hc : c.link.spedUp = true)
    (op : Deferred) :
    (m.execute op).2.actor.phase = m.actor.phase ∧
      ∃ c', (m.execute op).2.actor.stream = some c' ∧ c'.link.spedUp = true := by
  obtain ⟨stream, sub, ctx, hx, -⟩ := execute_eq m op
  refine ⟨by rw [hx], ?_⟩
  cases op with
  | subscribe sub' listener =>
    by_cases hsub : m.actor.subscription = none
    · rw [execute_subscribe_of_spedUp hs hc hsub]
      exact ⟨c, hs, hc⟩
    · simp [execute, hs, subscribe_eq, Option.ne_none_iff_isSome.1 hsub]
      exact hc
  | sendMessage text =>
    rw [execute_sendMessage_of_spedUp hs hc]
    exact ⟨c, hs, hc⟩
  | speedUp => exact ⟨c.speedUp, by simp [execute, hs], rfl⟩

end SpedUp

/-- The session is bound with a sped-up stream, or over. -/
def StaysSpedUp (m : Machine) : Prop :=
  (m.actor.phase = .bound ∧ ∃ c, m.actor.stream = some c ∧ c.link.spedUp = true) ∨
    m.actor.phase = .disconnected

theorem staysSpedUp_of_actor {m m' : Machine} (h : StaysSpedUp m) (ha : m'.actor = m.actor) :
    StaysSpedUp m' := by
  unfold StaysSpedUp
  rwa [ha]

/-- No step takes the speed-up back: a bound session keeps its sped-up stream or ends. -/
theorem StaysSpedUp.step {m : Machine} (h : StaysSpedUp m) (i : Input) :
    StaysSpedUp (m.step i) := by
  rcases h with ⟨hb, c, hs, hc⟩ | hd
  · have hlive : m.actor.phase ≠ .disconnected := by simp [hb]
    cases i with
    | command cmd =>
      have hstep := handleCommand_step m cmd
      simp only [Machine.step]
      generalize m.handleCommand cmd = m' at hstep ⊢
      cases hstep with
      | disconnect t => exact .inr (by simp [disconnect_phase])
      | bind t hp | parkBind t hp | refuseBind t hp => simp [hb] at hp
      | alreadyBinding t _ => exact .inl ⟨hb, c, hs, hc⟩
      | execute op t _ =>
        -- the only step that touches the stream, and it keeps it sped up
        obtain ⟨hphase, c', hs', hc'⟩ := execute_keeps_spedUp hs hc op
        exact .inl ⟨by simp [hphase, hb], c', by simpa using hs', hc'⟩
      | park op t hp => rcases hp with hp | hp | hp <;> simp [hb] at hp
      | refuse op t hp => simp [hb] at hp
    | signal s =>
      have hstep := handleSignal_step hlive s
      simp only [Machine.step]
      generalize m.handleSignal s = m' at hstep ⊢
      cases hstep with
      | calm hcalm => exact staysSpedUp_of_actor (.inl ⟨hb, c, hs, hc⟩) hcalm.actor
      | ends hends => exact .inr hends.phase_eq
      | connected _ _ hp | bind hp | bound hp => simp [hb] at hp
    | handlesDropped => exact .inr (disconnect_phase m)
    | writerStopped =>
      -- the stream keeps its link, sped up
      exact .inl ⟨hb, c.stopWriter, by simp [Machine.step, stopWriter, hs], hc⟩
  · -- an ended session stays ended
    exact .inr (Phase.Moves.of_disconnected (hd ▸ (reports_step m i).moves))

theorem StaysSpedUp.run {m : Machine} (h : StaysSpedUp m) (inputs : List Input) :
    StaysSpedUp (m.run inputs) :=
  run_induction h (fun _ i hm => hm.step i) inputs

/-- A speed-up run on a bound stream leaves it sped up. -/
theorem staysSpedUp_speedUp {m : Machine} (hb : m.actor.phase = .bound) (hc : m.actor.Coherent)
    (t : Nat) : StaysSpedUp (m.step (.command ⟨.whenBound .speedUp, t⟩)) := by
  obtain ⟨c, hs⟩ := Option.isSome_iff_exists.1 (hc.stream.2 hb)
  simp only [step, handleCommand, hb]
  exact .inl ⟨by simp [execute, hs, hb], c.speedUp, by simp [execute, hs], rfl⟩

/-- A message to a session whose stream was sped up is refused, with `spedUp` while it is
    bound and `disconnected` once it is over; the refusal is the step's only effect and leaves
    the actor as it was. -/
theorem sendMessage_of_staysSpedUp {m : Machine} (h : StaysSpedUp m) (text : String) (t : Nat) :
    let m' := m.step (.command ⟨.whenBound (.sendMessage text), t⟩)
    m'.effectsSince m =
        [.reply t (.error (if m.actor.phase = .bound then .spedUp else .disconnected))] ∧
      m'.actor = m.actor := by
  intro m'
  rcases h with ⟨hb, c, hs, hc⟩ | hd
  · have hm' : m' = { m with ctx := m.ctx.nextReqId.2 }.reply t (.error .spedUp) := by
      simp [m', step, handleCommand, hb, execute_sendMessage_of_spedUp hs hc]
    rw [hm']
    exact ⟨effectsSince_of_eq_append (by simp [hb, reply, emit]), rfl⟩
  · have hm' : m' = m.reply t (.error .disconnected) := by
      simp [m', step, handleCommand, hd]
    rw [hm']
    exact ⟨effectsSince_of_eq_append (by simp [hd, reply, emit]), rfl⟩

/-- A first subscription to a session whose stream was sped up is refused in the same way. -/
theorem subscribe_of_staysSpedUp {m : Machine} (h : StaysSpedUp m)
    (hsub : m.actor.subscription = none) (sub : Subscription) (listener t : Nat) :
    (m.step (.command ⟨.whenBound (.subscribe sub listener), t⟩)).effectsSince m =
      [.reply t (.error (if m.actor.phase = .bound then .spedUp else .disconnected))] := by
  rcases h with ⟨hb, c, hs, hc⟩ | hd
  · apply effectsSince_of_eq_append
    simp [step, handleCommand, hb, execute_subscribe_of_spedUp hs hc hsub, reply, emit,
      recordSubscription]
  · apply effectsSince_of_eq_append
    simp [step, handleCommand, hd, reply, emit]

/-- Once a speed-up has run on the stream of a bound session, the session stays bound with that
    sped-up stream until it ends, and the stream refuses every request. While the session is
    bound, a later message, and a first subscription, is refused with `spedUp`, the step
    reporting nothing but the reply and leaving the actor as it was; once the session is over
    they are refused with `disconnected`. Every bind-stream chunk read through the stream's link
    is counted and not decoded. A connection's link takes requests until it is sped up or
    closed, refuses them with `spedUp` once sped up whatever follows, close included, and with
    `disconnected` once closed without a speed-up. -/
theorem speedUp_holds_until_the_end (params : SessionParams) (ctx : Context) (pre : List Input)
    (t : Nat) (hbound : ((started params ctx).run pre).actor.phase = .bound)
    (inputs : List Input) :
    let m := (((started params ctx).run pre).step (.command ⟨.whenBound .speedUp, t⟩)).run inputs
    ((m.actor.phase = .bound ∧ ∃ c, m.actor.stream = some c ∧ c.link.spedUp = true ∧
        ∀ r, c.send r = .error .spedUp) ∨ m.actor.phase = .disconnected) ∧
    (∀ text t', let m' := m.step (.command ⟨.whenBound (.sendMessage text), t'⟩)
      m'.effectsSince m =
          [.reply t' (.error (if m.actor.phase = .bound then .spedUp else .disconnected))] ∧
        m'.actor = m.actor) ∧
    (∀ sub listener t', m.actor.subscription = none →
      (m.step (.command ⟨.whenBound (.subscribe sub listener), t'⟩)).effectsSince m =
        [.reply t' (.error (if m.actor.phase = .bound then .spedUp else .disconnected))]) ∧
    (∀ c, m.actor.stream = some c → ∀ (transport : Transport) (options : ClientOptions)
        (i : Inbound) (chunk : List UInt8),
      i.bindChunk transport options c.link chunk =
        { i with stats := i.stats.add .bytesRead chunk.length.toUInt64 }) ∧
    (∀ (transport : Transport) (options : ClientOptions) (i : Inbound)
        (reads : List (Link × List UInt8)), (∀ r ∈ reads, r.1.spedUp = true) →
      i.readBind transport options reads =
        { i with stats :=
          i.stats.add .bytesRead (reads.map fun (r : Link × List UInt8) => r.2.length).sum.toUInt64 }) ∧
    (∀ (target : PoolKey) (uses : List Use),
      (uses.foldl Connection.use { target }).link.checkWritable =
        if uses.any Use.isSpeedUp then .error .spedUp
        else if uses.any Use.isClose then .error .disconnected
        else .ok ()) := by
  intro m
  have hstays : StaysSpedUp m :=
    (staysSpedUp_speedUp hbound (coherent_run params ctx pre) t).run inputs
  have hcoh : m.actor.Coherent := by
    have h := coherent_run params ctx (pre ++ .command ⟨.whenBound .speedUp, t⟩ :: inputs)
    rwa [run_append, run_cons] at h
  refine ⟨?_, sendMessage_of_staysSpedUp hstays, fun sub listener t' hsub =>
    subscribe_of_staysSpedUp hstays hsub sub listener t', fun c hs => ?_,
    fun transport options i _ h => Inbound.readBind_of_spedUp i transport options h,
    fun target uses => by simp [Connection.checkWritable_useAll]⟩
  · rcases hstays with ⟨hb, c, hs, hc⟩ | hd
    · exact .inl ⟨hb, c, hs, hc, Connection.send_of_spedUp hc⟩
    · exact .inr hd
  · -- the stream a bound session holds is the sped-up one
    have hc : c.link.spedUp = true := by
      rcases hstays with ⟨-, c', hs', hc'⟩ | hd
      · rw [hs] at hs'
        cases hs'
        exact hc'
      · have hnone : m.actor.stream = none := by
          rw [← Option.not_isSome_iff_eq_none, hcoh.stream, hd]
          simp
        rw [hs] at hnone
        cases hnone
    exact fun transport options i chunk => Inbound.bindChunk_of_spedUp i transport options hc chunk

/-- A session bound through the LOOP of its create stream, whose stream is then sped up, stays
    so across a message. -/
theorem speedUp_holds_across_a_message :
    let params : SessionParams := ⟨⟨"localhost", 8080, false, 0⟩, "DEMO", none, none, .httpStreaming⟩
    let pre : List Input := [.signal (.frame .create (.sessionOk "S1" 50000 5000 none)),
      .signal (.frame .create .rebind), .signal (.frame .bind (.sessionOk "S1" 50000 5000 none))]
    let m := (((started params {}).run pre).step (.command ⟨.whenBound .speedUp, 1⟩)).run
      [.command ⟨.whenBound (.sendMessage "hello"), 2⟩]
    ((started params {}).run pre).actor.phase = .bound ∧
      ((m.actor.phase = .bound ∧ ∃ c, m.actor.stream = some c ∧ c.link.spedUp = true ∧
        ∀ r, c.send r = .error .spedUp) ∨ m.actor.phase = .disconnected) := by
  intro params pre m
  have hbound : ((started params {}).run pre).actor.phase = .bound := by rfl
  exact ⟨hbound, (speedUp_holds_until_the_end params {} pre 1 hbound
    [.command ⟨.whenBound (.sendMessage "hello"), 2⟩]).1⟩

/-- The same session sped up and then disconnected: a later message is refused with
    `disconnected`, not `spedUp`. -/
theorem sendMessage_after_speedUp_and_disconnect :
    let params : SessionParams := ⟨⟨"localhost", 8080, false, 0⟩, "DEMO", none, none, .httpStreaming⟩
    let m := (started params {}).run [.signal (.frame .create (.sessionOk "S1" 50000 5000 none)),
      .signal (.frame .create .rebind), .signal (.frame .bind (.sessionOk "S1" 50000 5000 none)),
      .command ⟨.whenBound .speedUp, 1⟩, .command ⟨.disconnect, 2⟩,
      .command ⟨.whenBound (.sendMessage "hello"), 3⟩]
    m.effects.getLast? = some (.reply 3 (.error .disconnected)) := by
  rfl

end Machine

end TlcpLoad
