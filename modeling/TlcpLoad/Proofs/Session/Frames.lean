import TlcpLoad.Proofs.Session.Steps

/-! # Frames on a live session

A decoded frame reaches a live session on the create, bind or control channel. What the
session does with it depends on the channel, the phase, the kind of event and, for
acknowledgements, updates and request errors, on whether the ids name the active
subscription. `Machine.frameOutcome` is that table; each frame has one of five outcomes:

1. the session moves forward: created by CONOK on the create stream while connecting (and on
   to binding in the same step when a bind was asked for meanwhile), binding on a LOOP of the
   create stream while connected, bound by CONOK on the bind stream while binding;
2. an acknowledgement or an update of the active subscription goes to its listener, the
   values as decoded, however many there are;
3. a LOOP of the create stream after a bind got there first is dropped;
4. the session ends with the server's code and message: CONERR on the create or the bind
   stream, and REQERR on any, which the subscription's listener hears of first when the
   request was the subscription's;
5. the session ends with code -1: a frame that could not be read, and every frame out of
   place.

`handleFrame_follows_outcome` proves that the actor does what the table says. -/

namespace TlcpLoad

/-- What a live session does with one frame. -/
inductive FrameOutcome where
  /-- The session moves forward to this phase. -/
  | advance (phase : Phase)
  /-- The active subscription's listener gets this callback, and the session stays as it was. -/
  | deliver (callback : Effect)
  /-- The frame is dropped. -/
  | ignore
  /-- The session ends with the server's code and message, after these callbacks. -/
  | fail (code : Int) (message : String) (first : List Effect)
  /-- The session ends with code -1 and this message. -/
  | reject (message : String)

namespace Machine

/-- What a request error owes the active subscription: its failure, when the request was the
    subscription's. -/
def requestErrorCallbacks (m : Machine) (reqId : String) (code : Int) (message : String) :
    List Effect :=
  match m.actor.subscription with
  | some active =>
    if active.reqId = reqId then [.subscriptionError active.listener code message] else []
  | none => []

/-- A frame for a subscription: delivered when it names the active one, else out of place. -/
def subscriptionOutcome (m : Machine) (subId : String) (callback : Nat → Effect) :
    FrameOutcome :=
  match m.actor.subscription with
  | some active =>
    if active.subId = subId then .deliver (callback active.listener)
    else .reject "Message not expected"
  | none => .reject "Message not expected"

/-- What a live session does with a frame of a channel, by channel, phase and event. -/
def frameOutcome (m : Machine) (channel : Channel) (e : Event) : FrameOutcome :=
  match channel, m.actor.phase, e with
  | _, _, .parseError cause frame =>
    .reject (cause.message ++ " (frame: " ++ Literal.quote frame ++ ")")
  | _, _, .requestError reqId code message =>
    .fail code message (m.requestErrorCallbacks reqId code message)
  | .create, .connecting, .sessionOk .. =>
    .advance (if m.actor.bindRequests = [] then .connected else .binding)
  | .create, .connected, .rebind => .advance .binding
  | .bind, .binding, .sessionOk .. => .advance .bound
  | .bind, _, .subscribeOk subId totalItems totalFields =>
    m.subscriptionOutcome subId (.subscribed · totalItems totalFields)
  | .bind, _, .update subId item values => m.subscriptionOutcome subId (.itemUpdate · item values)
  | .create, .binding, .rebind | .create, .bound, .rebind => .ignore
  | .create, _, .sessionError code message | .bind, _, .sessionError code message =>
    .fail code message []
  | _, _, _ => .reject "Message not expected"

/-- `m'` is `m` ended with `code` and `message`: after the callbacks `first` and some quiet
    effects, everything is shut down, the disconnected status reported and the server-error
    listener told. -/
def EndsWith (m m' : Machine) (code : Int) (message : String) (first : List Effect) : Prop :=
  ∃ m₀, Calm { m with effects := m.effects ++ first } m₀ ∧ m' = m₀.terminate code message

end Machine

/-- What an outcome says of the session before (`m`) and after (`m'`) the frame. -/
def FrameOutcome.Holds (m m' : Machine) : FrameOutcome → Prop
  | .advance p => m'.actor.phase = p
  | .deliver callback => ∃ m₀ : Machine, m.Calm m₀ ∧ m' = m₀.emit callback
  | .ignore => m' = m
  | .fail code message first => m.EndsWith m' code message first
  | .reject message => m.EndsWith m' (-1) message []

namespace Machine

/-! ## Ending a session -/

theorem EndsWith.of_calm {m m₁ m' : Machine} {code : Int} {message : String}
    (h₁ : Calm m m₁) (h : m₁.EndsWith m' code message []) : m.EndsWith m' code message [] := by
  obtain ⟨m₀, h₀, rfl⟩ := h
  refine ⟨m₀, ?_, rfl⟩
  simp only [List.append_nil] at h₀ ⊢
  exact h₁.trans h₀

theorem EndsWith.of_emit {m m' : Machine} {e : Effect} {code : Int} {message : String}
    (h : (m.emit e).EndsWith m' code message []) : m.EndsWith m' code message [e] := by
  obtain ⟨m₀, h₀, rfl⟩ := h
  simp only [emit, List.append_nil] at h₀
  exact ⟨m₀, h₀, rfl⟩

theorem endsWith_onSessionError {m : Machine} (h : m.actor.phase ≠ .disconnected) (code : Int)
    (message : String) : m.EndsWith (m.onSessionError code message) code message [] := by
  refine ⟨(m.bump .socketErrors).note .error ("Error: " ++ Numeral.intText code ++ " " ++ message),
    ?_, by simp only [onSessionError, h, if_false]⟩
  simpa using (calm_bump m .socketErrors).trans (calm_note _ .error _)

/-- A request error reaches the subscription's listener first when it was its request. -/
theorem endsWith_onRequestError {m : Machine} (h : m.actor.phase ≠ .disconnected)
    (reqId : String) (code : Int) (message : String) :
    m.EndsWith (m.onRequestError reqId code message) code message
      (m.requestErrorCallbacks reqId code message) := by
  cases hs : m.actor.subscription with
  | none =>
    simpa [onRequestError, requestErrorCallbacks, hs] using endsWith_onSessionError h code message
  | some active =>
    by_cases hr : active.reqId = reqId
    · -- the callback is quiet, so the session is still live when it ends
      simp only [onRequestError, requestErrorCallbacks, hs, hr, if_true]
      exact EndsWith.of_emit (endsWith_onSessionError (by simpa [emit] using h) code message)
    · simpa [onRequestError, requestErrorCallbacks, hs, hr] using
        endsWith_onSessionError h code message

/-- A frame out of place is logged and ends the session. -/
theorem unexpected_holds {m : Machine} (h : m.actor.phase ≠ .disconnected) (text : String) :
    (FrameOutcome.reject "Message not expected").Holds m
      ((m.note .warn text).onSessionError (-1) "Message not expected") :=
  EndsWith.of_calm (calm_note m .warn text)
    (endsWith_onSessionError (by simpa [note, emit] using h) _ _)

/-- Acknowledgements and updates belong to the bind stream: the create stream hands them back
    in every phase. -/
theorem onCreateFrame_subscribeOk (m : Machine) (subId : String) (totalItems totalFields : Int) :
    m.onCreateFrame (.subscribeOk subId totalItems totalFields) =
      (m, some (.subscribeOk subId totalItems totalFields)) := by
  cases hp : m.actor.phase <;> simp [onCreateFrame, hp]

theorem onCreateFrame_update (m : Machine) (subId : String) (item : Nat)
    (values : List FieldValue) :
    m.onCreateFrame (.update subId item values) = (m, some (.update subId item values)) := by
  cases hp : m.actor.phase <;> simp [onCreateFrame, hp]

/-- An acknowledgement reaches the active subscription's listener. -/
theorem onSubscription_delivers {m : Machine} {active : ActiveSubscription}
    (hs : m.actor.subscription = some active) (totalItems totalFields : Int) :
    (FrameOutcome.deliver (.subscribed active.listener totalItems totalFields)).Holds m
      (m.onSubscription totalItems totalFields) :=
  ⟨_, (calm_bump m .subDone).trans (calm_noteDelay _ .sub),
    by simp [onSubscription, bump, noteDelay, hs]⟩

/-- An update reaches the active subscription's listener with its values as decoded; a number
    of values other than the schema's is only logged. -/
theorem onUpdate_delivers {m : Machine} {active : ActiveSubscription}
    (hs : m.actor.subscription = some active) (item : Nat) (values : List FieldValue) :
    (FrameOutcome.deliver (.itemUpdate active.listener item values)).Holds m
      (m.onUpdate item values) := by
  unfold onUpdate
  rw [hs]
  dsimp only
  split
  · exact ⟨_, calm_note m .warn _, rfl⟩
  · exact ⟨m, Calm.refl m, rfl⟩

/-- A frame naming the active subscription is delivered. -/
theorem subscriptionOutcome_of_current {m : Machine} {subId : String} (callback : Nat → Effect)
    (hcur : m.isCurrent subId = true) :
    ∃ active, m.actor.subscription = some active ∧
      m.subscriptionOutcome subId callback = .deliver (callback active.listener) := by
  unfold isCurrent at hcur
  split at hcur
  · rename_i active hs
    exact ⟨active, hs, by simp [subscriptionOutcome, hs, beq_iff_eq.1 hcur]⟩
  · cases hcur

/-- Any other frame for a subscription is out of place. -/
theorem subscriptionOutcome_of_not_current {m : Machine} {subId : String} (callback : Nat → Effect)
    (hcur : ¬m.isCurrent subId = true) :
    m.subscriptionOutcome subId callback = .reject "Message not expected" := by
  unfold isCurrent at hcur
  unfold subscriptionOutcome
  split
  · rename_i active hs
    simp only [hs, beq_iff_eq] at hcur
    simp [hcur]
  · rfl

/-- A frame for a subscription reaches its listener when it names the active subscription and
    is out of place otherwise. -/
theorem subscriptionFrame_holds {m : Machine} (h : m.actor.phase ≠ .disconnected)
    {subId : String} (callback : Nat → Effect) {delivered m' : Machine}
    (hcurrent : m.isCurrent subId = true → m' = delivered)
    (hother : ¬m.isCurrent subId = true →
      ∃ text, m' = (m.note .warn text).onSessionError (-1) "Message not expected")
    (hdeliver : ∀ active, m.actor.subscription = some active →
      (FrameOutcome.deliver (callback active.listener)).Holds m delivered) :
    (m.subscriptionOutcome subId callback).Holds m m' := by
  by_cases hcur : m.isCurrent subId = true
  · obtain ⟨active, hs, hout⟩ := subscriptionOutcome_of_current callback hcur
    rw [hout, hcurrent hcur]
    exact hdeliver active hs
  · obtain ⟨text, rfl⟩ := hother hcur
    rw [subscriptionOutcome_of_not_current callback hcur]
    exact unexpected_holds h text

/-! ## The table, channel by channel -/

section
variable {m : Machine} (h : m.actor.phase ≠ .disconnected)
include h

theorem parseError_holds (channel : Channel) (cause : DecodeError) (frame : String) :
    (m.frameOutcome channel (.parseError cause frame)).Holds m
      (m.handleFrame channel (.parseError cause frame)) := by
  simp only [handleFrame, frameOutcome, FrameOutcome.Holds]
  exact endsWith_onSessionError h _ _

theorem requestError_holds (channel : Channel) (reqId : String) (code : Int) (message : String) :
    (m.frameOutcome channel (.requestError reqId code message)).Holds m
      (m.handleFrame channel (.requestError reqId code message)) := by
  simp only [handleFrame, frameOutcome, FrameOutcome.Holds]
  exact endsWith_onRequestError h reqId code message

theorem createFrame_holds (e : Event) :
    (m.frameOutcome .create e).Holds m (m.handleFrame .create e) := by
  cases e with
  | parseError cause frame => exact parseError_holds h _ cause frame
  | requestError reqId code message => exact requestError_holds h _ reqId code message
  | sessionOk sessionId limit keepalive link =>
    cases hp : m.actor.phase with
    | disconnected => exact absurd hp h
    | connecting =>
      simp only [handleFrame, onCreateFrame, frameOutcome, hp, FrameOutcome.Holds]
      exact (onConnected_records m sessionId link).1
    | connected | binding | bound =>
      simp only [handleFrame, onCreateFrame, frameOutcome, hp]
      exact unexpected_holds h _
  | sessionError code message =>
    simp only [handleFrame, onCreateFrame, frameOutcome, FrameOutcome.Holds]
    exact endsWith_onSessionError h code message
  | rebind =>
    cases hp : m.actor.phase with
    | disconnected => exact absurd hp h
    | connecting =>
      simp only [handleFrame, onCreateFrame, frameOutcome, hp]
      exact unexpected_holds h _
    | connected =>
      simp only [handleFrame, onCreateFrame, frameOutcome, hp, FrameOutcome.Holds]
      rfl
    | binding | bound => simp [handleFrame, onCreateFrame, frameOutcome, hp, FrameOutcome.Holds]
  | subscribeOk subId totalItems totalFields =>
    simp only [handleFrame, onCreateFrame_subscribeOk, frameOutcome]
    exact unexpected_holds h _
  | update subId item values =>
    simp only [handleFrame, onCreateFrame_update, frameOutcome]
    exact unexpected_holds h _

theorem bindFrame_holds (e : Event) :
    (m.frameOutcome .bind e).Holds m (m.handleFrame .bind e) := by
  cases e with
  | parseError cause frame => exact parseError_holds h _ cause frame
  | requestError reqId code message => exact requestError_holds h _ reqId code message
  | sessionOk sessionId limit keepalive link =>
    by_cases hp : m.actor.phase = .binding
    · obtain ⟨stream, sub, ctx, outs, heq, -, -⟩ := onBound_eq hp
      simp only [handleFrame, onBindFrame, frameOutcome, hp, if_true, FrameOutcome.Holds, heq]
    · cases hq : m.actor.phase with
      | disconnected => exact absurd hq h
      | binding => exact absurd hq hp
      | connecting | connected | bound =>
        simp only [handleFrame, onBindFrame, frameOutcome, hq]
        exact unexpected_holds h _
  | sessionError code message =>
    simp only [handleFrame, onBindFrame, frameOutcome, FrameOutcome.Holds]
    exact endsWith_onSessionError h code message
  | rebind =>
    simp only [handleFrame, onBindFrame, frameOutcome]
    exact unexpected_holds h _
  | subscribeOk subId totalItems totalFields =>
    simp only [frameOutcome]
    refine subscriptionFrame_holds h (Effect.subscribed · totalItems totalFields)
      (fun hcur => by simp [handleFrame, onBindFrame, hcur])
      (fun hcur => ⟨_, by simp [handleFrame, onBindFrame, hcur]; rfl⟩)
      fun active hs => onSubscription_delivers hs _ _
  | update subId item values =>
    simp only [frameOutcome]
    refine subscriptionFrame_holds h (Effect.itemUpdate · item values)
      (fun hcur => by simp [handleFrame, onBindFrame, hcur])
      (fun hcur => ⟨_, by simp [handleFrame, onBindFrame, hcur]; rfl⟩)
      fun active hs => onUpdate_delivers hs _ _

theorem controlFrame_holds (e : Event) :
    (m.frameOutcome .control e).Holds m (m.handleFrame .control e) := by
  cases e with
  | parseError cause frame => exact parseError_holds h _ cause frame
  | requestError reqId code message => exact requestError_holds h _ reqId code message
  | sessionOk _ _ _ _ | sessionError _ _ | rebind | subscribeOk _ _ _ | update _ _ _ =>
    -- the control stream only answers requests
    simp only [handleFrame, frameOutcome]
    exact unexpected_holds h _

end

/-- Every frame on a live session does what the table says: it moves the session forward,
    reaches the subscription's listener, is dropped, or ends the session with the server's
    code or with -1, by channel, phase, event and the ids of the active subscription. -/
theorem handleFrame_follows_outcome {m : Machine} (h : m.actor.phase ≠ .disconnected)
    (channel : Channel) (e : Event) :
    (m.frameOutcome channel e).Holds m (m.handleFrame channel e) := by
  cases channel with
  | create => exact createFrame_holds h e
  | bind => exact bindFrame_holds h e
  | control => exact controlFrame_holds h e

/-- The first CONOK of a fresh session, on the create stream, creates it. -/
theorem frame_outcome_of_first_sessionOk :
    (started ⟨⟨"localhost", 8080, false, 0⟩, "DEMO", none, none, .httpStreaming⟩ {}).actor.phase ≠
        .disconnected ∧
      ((started ⟨⟨"localhost", 8080, false, 0⟩, "DEMO", none, none, .httpStreaming⟩ {}).frameOutcome
          .create (.sessionOk "S1" 50000 5000 none)).Holds
        (started ⟨⟨"localhost", 8080, false, 0⟩, "DEMO", none, none, .httpStreaming⟩ {})
        ((started ⟨⟨"localhost", 8080, false, 0⟩, "DEMO", none, none, .httpStreaming⟩ {}).handleFrame
          .create (.sessionOk "S1" 50000 5000 none)) :=
  ⟨by simp [started_eq], handleFrame_follows_outcome (by simp [started_eq]) _ _⟩

end Machine

end TlcpLoad
