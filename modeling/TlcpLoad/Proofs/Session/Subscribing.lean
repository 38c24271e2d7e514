import TlcpLoad.Proofs.Session.Counters
import TlcpLoad.Proofs.Session.Coherence

/-! # Subscribing on the bound stream

A session makes one subscription, on its bound stream: directly when the subscribe command
comes while bound, or from the queue when the bind is acknowledged. Either way `execute` runs
it, and it has three outcomes (`subscribe_outcomes`):

* the subscription is accepted: it becomes the one active subscription, with the context's next
  subscription and request ids, it is counted as pending, and its request is handed to the
  connection;
* a subscription is already active: the second one is refused with a usage error, and nothing
  changes;
* the connection refuses the request: with `spedUp` when its link was sped up, and with
  `disconnected` when it is closed or when its writer task has ended and the session has not
  yet heard of it. The error is returned, but the subscription was recorded and counted before
  the request was handed over, and it stays so. A later subscription is then refused as a
  second one.

The last outcome is reached by every session that speeds up its stream before subscribing
(`subscribe_after_speedUp`), and by every bound session whose writer ends before it subscribes
(`subscribe_refused_after_writer_stops`). A session never holds a closed connection
(`holdsOpen_run`), so there the writer's end is what `disconnected` stands for
(`writerStopped_of_send_disconnected`). -/

namespace TlcpLoad

/-- A refusing link names why: it was sped up, or it is closed and refuses with
    `disconnected`. -/
theorem Link.checkWritable_eq_error {l : Link} {e : ClientError}
    (h : l.checkWritable = .error e) : e = .spedUp ∨ e = .disconnected ∧ l.closed = true := by
  unfold Link.checkWritable at h
  split at h
  · cases h
    exact .inl rfl
  · split at h
    · cases h
      exact .inr ⟨rfl, by assumption⟩
    · cases h

/-- A send fails when the link refuses, with the link's error, or when the link would take the
    request but the writer has ended, with `disconnected`. -/
theorem Connection.send_eq_error {c : Connection} {r : Request} {e : ClientError} :
    c.send r = .error e ↔ c.link.checkWritable = .error e ∨
      c.link.checkWritable = .ok () ∧ c.writerStopped = true ∧ e = .disconnected := by
  unfold Connection.send
  cases hw : c.link.checkWritable with
  | error e' => simp
  | ok u => cases c.writerStopped <;> simp [eq_comm]

/-- A refused send names why: the link was sped up, or the connection is gone, closed or
    without its writer. -/
theorem Connection.send_eq_error_cases {c : Connection} {r : Request} {e : ClientError}
    (h : c.send r = .error e) : e = .spedUp ∨ e = .disconnected := by
  rcases Connection.send_eq_error.1 h with hw | ⟨-, -, rfl⟩
  · exact (Link.checkWritable_eq_error hw).imp_right And.left
  · exact .inr rfl

namespace Machine

/-- The subscription a session records next: its ids are the context's next subscription and
    request ids. -/
def nextSubscription (m : Machine) (sub : Subscription) (listener : Nat) : ActiveSubscription :=
  { subId := Numeral.natText (m.ctx.lastSubId + 1), reqId := Numeral.natText (m.ctx.lastReqId + 1),
    subscription := sub, listener }

/-- The session once it has recorded a subscription: it is the active one, counted as pending,
    and its ids are taken from the context. -/
def recordSubscription (m : Machine) (sub : Subscription) (listener : Nat) : Machine :=
  { m with
    actor := { m.actor with subscription := some (m.nextSubscription sub listener) }
    ctx := { m.ctx with
      stats := m.ctx.stats.inc .subPending
      lastSubId := m.ctx.lastSubId + 1
      lastReqId := m.ctx.lastReqId + 1 } }

/-- The request that adds the subscription the session records next. -/
def subscribeRequest (m : Machine) (sub : Subscription) : Request :=
  Request.subscribe (m.ctx.lastReqId + 1) (Numeral.natText (m.ctx.lastSubId + 1)) sub m.actor.id

/-- Recording a subscription counts one more pending subscription and touches no other
    counter. -/
theorem recordSubscription_stats_get (m : Machine) (sub : Subscription) (listener : Nat)
    (c : Counter) :
    (m.recordSubscription sub listener).ctx.stats.get c =
      m.ctx.stats.get c + if c = .subPending then 1 else 0 :=
  Stats.get_inc m.ctx.stats .subPending c

/-- `subscribe` records the subscription before handing its request to the connection, so a
    refused request leaves it recorded. -/
theorem subscribe_eq (m : Machine) (conn : Connection) (sub : Subscription) (listener : Nat) :
    m.subscribe conn sub listener =
      if m.actor.subscription.isSome then
        (.error (.usage "only one subscription per session is supported"), m)
      else
        match conn.send (m.subscribeRequest sub) with
        | .error e => (.error e, m.recordSubscription sub listener)
        | .ok conn' =>
          (.ok (), { m.recordSubscription sub listener with
            actor := { (m.recordSubscription sub listener).actor with stream := some conn' } }) := by
  unfold subscribe
  split
  · rfl
  · dsimp only [Context.nextSubId, Context.nextReqId, bump]
    split <;> rename_i hsend <;> rw [subscribeRequest, hsend] <;> rfl

/-- A first subscription whose request the stream refuses is refused with the same error, after
    it was recorded. -/
theorem execute_subscribe_of_send_error {m : Machine} {conn : Connection} {sub : Subscription}
    {e : ClientError} (hs : m.actor.stream = some conn) (hsub : m.actor.subscription = none)
    (hsend : conn.send (m.subscribeRequest sub) = .error e) (listener : Nat) :
    m.execute (.subscribe sub listener) = (.error e, m.recordSubscription sub listener) := by
  simp [execute, hs, subscribe_eq, hsub, hsend]

/-- Subscribing on a stream has one of three outcomes. It is accepted: the link takes the
    request and the writer is running, and the subscription becomes the one active subscription,
    with the context's next ids, counted once as pending, and its request goes to the
    connection. It is a second subscription: refused with a usage error, and the session is left
    as it was. Or the connection refuses its request, because the link was sped up or closed or
    because the writer has ended: the error is returned, and the subscription is still recorded
    and counted. -/
theorem subscribe_outcomes (m : Machine) {conn : Connection} (hs : m.actor.stream = some conn)
    (sub : Subscription) (listener : Nat) :
    let r := m.execute (.subscribe sub listener)
    let m₁ := m.recordSubscription sub listener
    (m₁.actor.subscription = some (m.nextSubscription sub listener) ∧
      m₁.ctx.stats.get .subPending = m.ctx.stats.get .subPending + 1 ∧
      m₁.ctx.lastSubId = m.ctx.lastSubId + 1 ∧ m₁.ctx.lastReqId = m.ctx.lastReqId + 1) ∧
    ((m.actor.subscription = none ∧ conn.link.checkWritable = .ok () ∧
        conn.writerStopped = false ∧
        r = (.ok (), { m₁ with actor := { m₁.actor with
          stream := some { conn with outbox := conn.outbox ++ [m.subscribeRequest sub] } } })) ∨
      (m.actor.subscription.isSome ∧
        r = (.error (.usage "only one subscription per session is supported"), m)) ∨
      (∃ e, (e = .spedUp ∨ e = .disconnected) ∧ m.actor.subscription = none ∧
        (conn.link.checkWritable = .error e ∨
          conn.link.checkWritable = .ok () ∧ conn.writerStopped = true ∧ e = .disconnected) ∧
        r = (.error e, m₁))) := by
  intro r m₁
  refine ⟨⟨rfl, by simp [m₁, recordSubscription_stats_get], rfl, rfl⟩, ?_⟩
  have hr : r = m.subscribe conn sub listener := by
    simp only [r, execute, hs]
  rw [hr, subscribe_eq]
  cases hsub : m.actor.subscription with
  | some active => exact .inr (.inl ⟨rfl, rfl⟩)
  | none =>
    simp only [Option.isSome_none, Bool.false_eq_true, if_false]
    -- the connection takes the request, or refuses it and names why
    cases hsend : conn.send (m.subscribeRequest sub) with
    | error e =>
      exact .inr (.inr ⟨e, Connection.send_eq_error_cases hsend, trivial,
        Connection.send_eq_error.1 hsend, rfl⟩)
    | ok conn' =>
      obtain ⟨hw, hstop, rfl⟩ := Connection.send_eq_ok hsend
      exact .inl ⟨trivial, hw, hstop, rfl⟩

/-- A session bound through the LOOP of its create stream, whose stream is then sped up:
    subscribing fails with `spedUp`, and yet the subscription is the active one and is counted
    as pending. -/
theorem subscribe_after_speedUp :
    let params : SessionParams := ⟨⟨"localhost", 8080, false, 0⟩, "DEMO", none, none, .httpStreaming⟩
    let m := (started params {}).run [.signal (.frame .create (.sessionOk "S1" 50000 5000 none)),
      .signal (.frame .create .rebind), .signal (.frame .bind (.sessionOk "S1" 50000 5000 none)),
      .command ⟨.whenBound .speedUp, 1⟩]
    let conn : Connection := { target := params.server, link := { spedUp := true } }
    m.actor.phase = .bound ∧ m.actor.stream = some conn ∧ m.actor.subscription = none ∧
      m.execute (.subscribe (.ofMode "MERGE") 0) =
        (.error .spedUp, m.recordSubscription (.ofMode "MERGE") 0) ∧
      (m.recordSubscription (.ofMode "MERGE") 0).actor.subscription.isSome ∧
      (m.recordSubscription (.ofMode "MERGE") 0).ctx.stats.get .subPending = 1 := by
  intro params m conn
  have hs : m.actor.stream = some conn := rfl
  have hout := (subscribe_outcomes m hs (.ofMode "MERGE") 0).2
  have hrefused : m.execute (.subscribe (.ofMode "MERGE") 0) =
      (.error .spedUp, m.recordSubscription (.ofMode "MERGE") 0) := by
    have hsped : conn.link.checkWritable = .error .spedUp := rfl
    have hnone : m.actor.subscription = none := by rfl
    rcases hout with ⟨-, hw, -⟩ | ⟨hsome, -⟩ | ⟨e, -, -, hw | ⟨hw, -⟩, hr⟩
    · rw [hsped] at hw
      cases hw
    · rw [hnone] at hsome
      cases hsome
    · rw [hsped] at hw
      cases hw
      exact hr
    · rw [hsped] at hw
      cases hw
  exact ⟨by rfl, hs, by rfl, hrefused, by rfl, by rfl⟩

/-- Once the writer of a bound stream has ended, and until the session hears of it, a first
    subscription that the link would take is refused with `disconnected`, after it was
    recorded. -/
theorem execute_subscribe_of_writerStopped {m : Machine} {conn : Connection}
    (hs : m.actor.stream = some conn) (hw : conn.link.checkWritable = .ok ())
    (hsub : m.actor.subscription = none) (sub : Subscription) (listener : Nat) :
    (m.step .writerStopped).execute (.subscribe sub listener) =
      (.error .disconnected, (m.step .writerStopped).recordSubscription sub listener) :=
  have hs' : (m.step .writerStopped).actor.stream = some conn.stopWriter := by
    simp [step, stopWriter, hs]
  have hw' : conn.stopWriter.link.checkWritable = .ok () := hw
  execute_subscribe_of_send_error hs' hsub (Connection.send_of_writerStopped hw' rfl _) listener

/-- In every state a session reaches, its stream refuses a request with `disconnected` only once
    the writer has ended: the session holds no closed connection. -/
theorem writerStopped_of_send_disconnected (params : SessionParams) (ctx : Context)
    (inputs : List Input) {c : Connection}
    (hs : ((started params ctx).run inputs).actor.stream = some c) {r : Request}
    (h : c.send r = .error .disconnected) : c.writerStopped = true := by
  have hopen := (holdsOpen_run params ctx inputs).stream c hs
  rcases Connection.send_eq_error.1 h with hw | ⟨-, hstop, -⟩
  · -- the link refused: it would have to be closed
    rcases Link.checkWritable_eq_error hw with hsped | ⟨-, hclosed⟩
    · cases hsped
    · rw [hclosed] at hopen
      cases hopen
  · exact hstop

/-- From every state a session reaches with a stream that is not sped up and no subscription
    yet, the writer's end makes a first subscription fail with `disconnected`, and the
    subscription is recorded and counted all the same. -/
theorem subscribe_refused_after_writer_stops (params : SessionParams) (ctx : Context)
    (inputs : List Input) {c : Connection}
    (hs : ((started params ctx).run inputs).actor.stream = some c) (hsped : c.link.spedUp = false)
    (hsub : ((started params ctx).run inputs).actor.subscription = none)
    (sub : Subscription) (listener : Nat) :
    let m := ((started params ctx).run inputs).step .writerStopped
    m.execute (.subscribe sub listener) =
      (.error .disconnected, m.recordSubscription sub listener) := by
  -- the link of a held connection is open, and this one is not sped up
  have hw : c.link.checkWritable = .ok () := by
    simp [Link.checkWritable, hsped, (holdsOpen_run params ctx inputs).stream c hs]
  exact execute_subscribe_of_writerStopped hs hw hsub sub listener

example :
    let params : SessionParams := ⟨⟨"localhost", 8080, false, 0⟩, "DEMO", none, none, .httpStreaming⟩
    let m := (started params {}).run [.signal (.frame .create (.sessionOk "S1" 50000 5000 none)),
      .signal (.frame .create .rebind), .signal (.frame .bind (.sessionOk "S1" 50000 5000 none)),
      .writerStopped]
    (m.execute (.subscribe (.ofMode "MERGE") 0)).1 = .error .disconnected ∧
      (m.execute (.subscribe (.ofMode "MERGE") 0)).2.ctx.stats.get .subPending = 1 :=
  ⟨rfl, rfl⟩

end Machine

end TlcpLoad
