import TlcpLoad.Load.Test
import TlcpLoad.Proofs.Session.Lifecycle
import TlcpLoad.Proofs.Config.Check

/-! # Round robin over ports and pool instances

A counter of period `p` gives `j % p` on its `j`-th call, as long as fewer than `2^64` calls
have wrapped its call count (`RotationCounter.next_skip`). A port rotator keeps one counter per
host, made on the host's first call: the `j`-th call for a host, counted among that host's calls
only, gets the base port plus `j % nPorts`, capped at 65535 (`PortRotator.portsFor_getElem?`).
That the hosts do not disturb each other comes from the host list: setting one host's counter
leaves every other host's lookup alone (`lookup_setCounter`).

Sessions draw on both. A load test gives its `j`-th session the pool instance
`j % nInstances` (`LoadTest.connect_shard`). A session binds, once created, to its server with
the host of the control link and the next port the rotation gives that host, and keeps that
address to its end (`Machine.control_created`, `Machine.control_run_of_created`). A checked
configuration leaves room above its port for all its ports, so no port is capped. -/

namespace TlcpLoad

namespace RotationCounter

/-- The counter after `n` calls. -/
def skip (c : RotationCounter) : Nat → RotationCounter
  | 0 => c
  | n + 1 => c.next.2.skip n

/-- Before the call count wraps, a call moves the count by one and keeps the period. -/
theorem skip_eq (c : RotationCounter) (n : Nat) (h : c.calls + n < Nat.pow 2 64) :
    c.skip n = { c with calls := c.calls + n } := by
  induction n generalizing c with
  | zero => rfl
  | succ n ih =>
    have hnext : c.next.2 = { c with calls := c.calls + 1 } := by
      simp only [next, Nat.mod_eq_of_lt (show c.calls + 1 < Nat.pow 2 64 by omega)]
    rw [skip, ih _ (by rw [hnext]; dsimp only; omega), hnext]
    simp only [Nat.add_assoc, Nat.add_comm 1 n]

/-- The value of the call after `n` others. -/
theorem next_skip (c : RotationCounter) (n : Nat) (h : c.calls + n < Nat.pow 2 64) :
    (c.skip n).next.1 = (c.calls + n) % c.period := by
  rw [skip_eq c n h]
  rfl

/-- A fresh counter gives `j % max period 1` on its `j`-th call. -/
theorem ofPeriod_next_skip (period j : Nat) (h : j < Nat.pow 2 64) :
    ((ofPeriod period).skip j).next.1 = j % max period 1 := by
  rw [next_skip _ _ (by simpa [ofPeriod] using h)]
  simp [ofPeriod]

end RotationCounter

namespace PortRotator

/-- The counter a host's next call reads: its own, or a fresh one before its first call. -/
def counterOf (r : PortRotator) (host : String) : RotationCounter :=
  (r.hosts.lookup host).getD (RotationCounter.ofPeriod r.nPorts)

/-- The ports handed out to calls in a row, each a host and a base port. -/
def portsFor (r : PortRotator) : List (String × Nat) → List Nat
  | [] => []
  | (host, base) :: calls => (r.portFor host base).1 :: (r.portFor host base).2.portsFor calls

theorem lookup_setCounter (host h : String) (c : RotationCounter) :
    ∀ hosts : List (String × RotationCounter),
      (setCounter host c hosts).lookup h = if h = host then some c else hosts.lookup h
  | [] => by
    by_cases hh : h = host
    · simp [setCounter, hh]
    · simp [setCounter, List.lookup_cons, hh, beq_eq_false_iff_ne.2 hh]
  | (h', old) :: rest => by
    by_cases hh : h = h'
    · subst hh
      by_cases hhost : h = host <;> simp [setCounter, hhost]
    · -- another host's entry: the lookup passes it by on both sides
      have ih := lookup_setCounter host h c rest
      by_cases hh' : h' = host
      · subst hh'
        simp [setCounter, List.lookup_cons, hh, beq_eq_false_iff_ne.2 hh]
      · simp [setCounter, List.lookup_cons, hh', beq_eq_false_iff_ne.2 hh, ih]

/-- A call reads its host's counter, and gets the base port plus the counter's value, capped. -/
theorem portFor_fst (r : PortRotator) (host : String) (base : Nat) :
    (r.portFor host base).1 = min (base + (r.counterOf host).next.1) maxPort := by
  simp only [portFor, counterOf]
  split <;> omega

/-- A call advances its host's counter and no other. -/
theorem counterOf_portFor (r : PortRotator) (host : String) (base : Nat) (h : String) :
    (r.portFor host base).2.counterOf h =
      if h = host then (r.counterOf host).next.2 else r.counterOf h := by
  simp only [portFor, counterOf, lookup_setCounter]
  split <;> simp_all

/-- The nothing-else of a call: the number of ports stays. -/
theorem nPorts_portFor (r : PortRotator) (host : String) (base : Nat) :
    (r.portFor host base).2.nPorts = r.nPorts := rfl

/-- The `k`-th call of a run reads its host's counter after that host's earlier calls in the
    run, whatever calls the other hosts made in between. -/
theorem portsFor_getElem? (r : PortRotator) (calls : List (String × Nat)) (k : Nat) :
    (r.portsFor calls)[k]? = calls[k]?.map fun c =>
      min (c.2 + ((r.counterOf c.1).skip ((calls.take k).countP (·.1 = c.1))).next.1) maxPort := by
  induction calls generalizing r k with
  | nil => simp [portsFor]
  | cons call calls ih =>
    obtain ⟨host, base⟩ := call
    cases k with
    | zero => simp [portsFor, portFor_fst, RotationCounter.skip]
    | succ k =>
      -- the rest of the run starts from the rotator the first call left
      simp only [portsFor, List.getElem?_cons_succ, ih, List.take_succ_cons, List.countP_cons]
      cases calls[k]? with
      | none => rfl
      | some c =>
        simp only [Option.map_some, counterOf_portFor]
        by_cases hc : c.1 = host
        · simp [hc, RotationCounter.skip]
        · simp [hc, Ne.symm hc]

/-- From a fresh rotator, the `j`-th call for a host gets its base port plus `j % max nPorts 1`,
    capped at the highest port, while no host has had `2^64` calls. -/
theorem portsFor_fresh (nPorts : Nat) (calls : List (String × Nat))
    (hfew : ∀ h, calls.countP (·.1 = h) < Nat.pow 2 64) (k : Nat) :
    (PortRotator.portsFor ⟨nPorts, []⟩ calls)[k]? = calls[k]?.map fun c =>
      min (c.2 + (calls.take k).countP (·.1 = c.1) % max nPorts 1) maxPort := by
  rw [portsFor_getElem?]
  cases hk : calls[k]? with
  | none => rfl
  | some c =>
    have hj : (calls.take k).countP (·.1 = c.1) < Nat.pow 2 64 :=
      Nat.lt_of_le_of_lt ((List.take_sublist k calls).countP_le) (hfew c.1)
    simp [counterOf, RotationCounter.ofPeriod_next_skip _ _ hj]

/-- With room for all the ports above every base port, no call is capped: each host's calls
    cycle through the `max nPorts 1` ports from its base. -/
theorem portsFor_fresh_of_room (nPorts : Nat) (calls : List (String × Nat))
    (hfew : ∀ h, calls.countP (·.1 = h) < Nat.pow 2 64)
    (hroom : ∀ c ∈ calls, c.2 + max nPorts 1 - 1 ≤ maxPort) (k : Nat) :
    (PortRotator.portsFor ⟨nPorts, []⟩ calls)[k]? = calls[k]?.map fun c =>
      c.2 + (calls.take k).countP (·.1 = c.1) % max nPorts 1 := by
  rw [portsFor_fresh nPorts calls hfew]
  cases hk : calls[k]? with
  | none => rfl
  | some c =>
    have hc := hroom c (List.mem_of_getElem? hk)
    have hlt := Nat.mod_lt ((calls.take k).countP (·.1 = c.1)) (show 0 < max nPorts 1 by omega)
    simp only [Option.map_some, Option.some.injEq]
    exact Nat.min_eq_left (by omega)

/- Two hosts over three ports: each host's calls go round its own ports. -/
example : PortRotator.portsFor ⟨3, []⟩
    [("a", 8080), ("b", 9000), ("a", 8080), ("a", 8080), ("b", 9000), ("a", 8080)] =
      [8080, 9000, 8081, 8082, 9001, 8080] := by
  decide

end PortRotator

/-- A checked configuration leaves room above its port for all the ports of its options. -/
theorem ClientConfig.port_room {c : ClientConfig} (h : c.check = .ok ()) :
    c.port + max c.clientOptions.nPorts 1 - 1 ≤ maxPort := by
  have hports := (ClientConfig.Valid.of_check h).ports
  simp only [clientOptions, Nat.max] at hports ⊢
  omega

/-- The pool instance of a destination is the one asked for; the rest comes from the URL. -/
theorem PoolKey.ofUrl_eq_map (url : String) (shard : Nat) :
    PoolKey.ofUrl url shard = (PoolKey.ofUrl url 0).map fun k => { k with shard } := by
  unfold PoolKey.ofUrl
  split
  · rfl
  · dsimp only
    split <;> (try split) <;> rfl

namespace LoadTest

/-- The test after its sessions ran one after another, each with its items. -/
def runAll (t : LoadTest) (itemss : List (List String)) : LoadTest :=
  itemss.foldl (fun t items => (t.runSession items).2) t

/-- A session draws one pool instance and leaves the configuration alone. -/
theorem runSession_instances (t : LoadTest) (items : List String) :
    (t.runSession items).2.instances = t.instances.next.2 ∧
      (t.runSession items).2.config = t.config := by
  simp only [runSession, connect]
  split <;> exact ⟨rfl, rfl⟩

theorem runAll_instances (t : LoadTest) (itemss : List (List String)) :
    (t.runAll itemss).instances = t.instances.skip itemss.length ∧
      (t.runAll itemss).config = t.config := by
  induction itemss generalizing t with
  | nil => exact ⟨rfl, rfl⟩
  | cons items itemss ih =>
    obtain ⟨hi, hc⟩ := runSession_instances t items
    obtain ⟨hi', hc'⟩ := ih (t.runSession items).2
    exact ⟨hi'.trans (by rw [hi]; rfl), hc'.trans hc⟩

theorem create_eq_ok {config : ClientConfig} {refusal : OsError} {t : LoadTest}
    (h : create config refusal = .ok t) :
    t.config = config ∧ t.instances = RotationCounter.ofPeriod config.clientOptions.nInstances ∧
      t.ctx = Context.ofOptions config.clientOptions := by
  unfold create at h
  cases ht : config.transport with
  | error e => simp [ht, bind, Except.bind] at h
  | ok transport =>
    simp only [ht, bind, Except.bind, pure, Except.pure, Except.ok.injEq] at h
    subst h
    exact ⟨rfl, rfl, rfl⟩

/-- The session a load test connects after `j` others gets pool instance
    `j % max nInstances 1`; it connects exactly when the server's URL reads. -/
theorem connect_shard {config : ClientConfig} {refusal : OsError} {t : LoadTest}
    (h : create config refusal = .ok t) (itemss : List (List String))
    (hfew : itemss.length < Nat.pow 2 64) :
    ((t.runAll itemss).connect).1.map (·.server.shard) =
      (PoolKey.ofUrl config.serverUrl 0).map
        fun _ => itemss.length % max config.clientOptions.nInstances 1 := by
  obtain ⟨hconfig, hinst, -⟩ := create_eq_ok h
  obtain ⟨hi, hc⟩ := runAll_instances t itemss
  have hshard := RotationCounter.ofPeriod_next_skip config.clientOptions.nInstances _ hfew
  rw [← hinst, ← hi] at hshard
  simp only [connect, hc, hconfig, hshard, PoolKey.ofUrl_eq_map _ (_ % _)]
  cases PoolKey.ofUrl config.serverUrl 0 <;> rfl

end LoadTest

namespace Phase.Moves

/-- Nothing moves into the connecting phase from another. -/
theorem eq_connecting {p : Phase} (h : Phase.Moves p .connecting) : p = .connecting := by
  cases h
  rfl

end Phase.Moves

namespace Machine

/-! ## The bind address -/

theorem Calm.control {m m' : Machine} (h : Calm m m') : m'.actor.control = m.actor.control := by
  rw [h.actor]

theorem Ends.control {m m' : Machine} (h : Ends m m') : m'.actor.control = m.actor.control := by
  obtain ⟨m₀, code, message, hc, rfl⟩ := h
  rw [terminate_eq]
  exact hc.control

theorem disconnect_control (m : Machine) : m.disconnect.actor.control = m.actor.control := by
  by_cases hd : m.actor.phase = .disconnected
  · rw [disconnect_of_disconnected hd]
  · rw [disconnect_of_live hd]
    rfl

theorem CommandStep.control {m m' : Machine} {cmd : Command} (hs : CommandStep m cmd m') :
    m'.actor.control = m.actor.control := by
  cases hs with
  | disconnect t => exact disconnect_control m
  | execute op t _ =>
    obtain ⟨stream, sub, ctx, hx, -⟩ := execute_eq m op
    simp [reply, emit, hx]
  | bind | alreadyBinding | parkBind | refuseBind | park | refuse => rfl

/-- A signal keeps the bind address, unless it creates the session. -/
theorem SignalStep.control {m m' : Machine} (hs : SignalStep m m') :
    m'.actor.control = m.actor.control ∨
      m.actor.phase = .connecting ∧ m'.actor.phase ≠ .connecting := by
  cases hs with
  | calm hc => exact .inl hc.control
  | ends he => exact .inl he.control
  | connected sessionId link hp =>
    refine .inr ⟨hp, ?_⟩
    rw [(onConnected_records m sessionId link).1]
    split <;> simp
  | bind _ => exact .inl rfl
  | bound hp =>
    obtain ⟨stream, sub, ctx, outs, heq, -, -⟩ := onBound_eq hp
    exact .inl (by rw [heq])

/-- Only the creation moves a session's bind address, and it leaves the connecting phase. -/
theorem control_step (m : Machine) (i : Input) :
    (m.step i).actor.control = m.actor.control ∨
      m.actor.phase = .connecting ∧ (m.step i).actor.phase ≠ .connecting := by
  cases i with
  | command cmd => exact .inl (handleCommand_step m cmd).control
  | signal s =>
    by_cases hd : m.actor.phase = .disconnected
    · left
      rw [step, handleSignal_of_disconnected hd]
    · exact (handleSignal_step hd s).control
  | handlesDropped => exact .inl (disconnect_control m)
  | writerStopped => exact .inl rfl

/-- Until it is created, a session's bind address is its server. -/
theorem control_of_connecting (params : SessionParams) (ctx : Context) (inputs : List Input)
    (h : ((started params ctx).run inputs).actor.phase = .connecting) :
    ((started params ctx).run inputs).actor.control = params.server := by
  refine run_induction
    (P := fun m => m.actor.phase = .connecting → m.actor.control = params.server)
    (fun _ => by rw [started_eq]) (fun m i ih hc => ?_) inputs h
  -- a step into the connecting phase came from it, and so did not create the session
  have hmoves := (reports_step m i).moves
  rw [hc] at hmoves
  rcases control_step m i with hctl | ⟨-, hne⟩
  · rw [hctl]
    exact ih hmoves.eq_connecting
  · exact absurd hc hne

/-- Once created, a session keeps its bind address to its end. -/
theorem control_run_of_created {m : Machine} (h : m.actor.phase ≠ .connecting)
    (inputs : List Input) : (m.run inputs).actor.control = m.actor.control := by
  refine (run_induction
    (P := fun m' => m'.actor.phase ≠ .connecting ∧ m'.actor.control = m.actor.control)
    ⟨h, rfl⟩ (fun m' i ih => ?_) inputs).2
  obtain ⟨hp, hc⟩ := ih
  refine ⟨fun hc' => hp ?_, ?_⟩
  · have hmoves := (reports_step m' i).moves
    rw [hc'] at hmoves
    exact hmoves.eq_connecting
  · rcases control_step m' i with hctl | ⟨hp', -⟩
    · exact hctl.trans hc
    · exact absurd hp' hp

/-- The creation picks the bind address: the control link's host when one came (a link naming
    the server's own host changes nothing), at that host's next port from the server's. -/
theorem onConnected_control {m : Machine} (hc : m.actor.control = m.params.server)
    (sessionId : String) (link : Option String) :
    let host := link.getD m.params.server.host
    (m.onConnected sessionId link).actor.control =
        { m.params.server with host, port := (m.ctx.ports.portFor host m.params.server.port).1 } ∧
      (m.onConnected sessionId link).ctx.ports =
        (m.ctx.ports.portFor host m.params.server.port).2 := by
  intro host
  unfold onConnected
  simp only [setPhase, bump, noteDelay, setStatus, emit, replyAll_eq, List.isEmpty_iff]
  cases link with
  | none => split <;> simp [bind_eq, hc, host]
  | some l =>
    by_cases hl : l = m.params.server.host <;> split <;> simp [bind_eq, hc, host, hl]

/-- A connecting session takes the creation frame as its creation. -/
theorem step_sessionOk {m : Machine} (hp : m.actor.phase = .connecting) (sessionId : String)
    (requestLimit keepalive : Nat) (link : Option String) :
    m.step (.signal (.frame .create (.sessionOk sessionId requestLimit keepalive link))) =
      m.onConnected sessionId link := by
  simp [step, handleSignal, handleFrame, onCreateFrame, hp]

/-- After its creation frame, a session binds to its server at the host of the control link, if
    one came, and the next port the rotation gives that host from the server's port, with the
    server's TLS and pool instance; it keeps that address to its end. -/
theorem control_created (params : SessionParams) (ctx : Context) (inputs more : List Input)
    (h : ((started params ctx).run inputs).actor.phase = .connecting)
    (sessionId : String) (requestLimit keepalive : Nat) (link : Option String) :
    let m := (started params ctx).run inputs
    let host := link.getD params.server.host
    let m' := m.step (.signal (.frame .create (.sessionOk sessionId requestLimit keepalive link)))
    (m'.run more).actor.control =
        { params.server with host, port := (m.ctx.ports.portFor host params.server.port).1 } ∧
      m'.ctx.ports = (m.ctx.ports.portFor host params.server.port).2 := by
  intro m host m'
  have hparams : m.params = params := params_run params ctx inputs
  have hc : m.actor.control = m.params.server := by
    rw [hparams]
    exact control_of_connecting params ctx inputs h
  have hm' : m' = m.onConnected sessionId link := step_sessionOk h _ _ _ _
  obtain ⟨hctl, hports⟩ := onConnected_control hc sessionId link
  have hcreated : m'.actor.phase ≠ .connecting := by
    rw [hm', (onConnected_records m sessionId link).1]
    split <;> simp
  rw [control_run_of_created hcreated more, hm', hctl, hports, hparams]
  exact ⟨rfl, rfl⟩

end Machine

/-! ## Sessions spread round robin -/

/-- Sessions are spread round robin: the ports a rotator hands out, host by host; a counter's
    values; the pool instance of each session a load test connects; and the bind address a
    session takes on creation. With room for all the ports above the base port, as a checked
    configuration has above its own port, no port is capped. -/
theorem sessions_rotate_ports_and_instances :
    (∀ (nPorts : Nat) (calls : List (String × Nat)),
      (∀ h, calls.countP (·.1 = h) < Nat.pow 2 64) → ∀ k,
        (PortRotator.portsFor ⟨nPorts, []⟩ calls)[k]? = calls[k]?.map fun c =>
          min (c.2 + (calls.take k).countP (·.1 = c.1) % max nPorts 1) maxPort) ∧
    (∀ period j : Nat, j < Nat.pow 2 64 →
      ((RotationCounter.ofPeriod period).skip j).next.1 = j % max period 1) ∧
    (∀ (config : ClientConfig) (refusal : OsError) (t : LoadTest) (itemss : List (List String)),
      LoadTest.create config refusal = .ok t → itemss.length < Nat.pow 2 64 →
        ((t.runAll itemss).connect).1.map (·.server.shard) =
          (PoolKey.ofUrl config.serverUrl 0).map
            fun _ => itemss.length % max config.clientOptions.nInstances 1) ∧
    (∀ (params : SessionParams) (ctx : Context) (inputs more : List Input) (sessionId : String)
        (requestLimit keepalive : Nat) (link : Option String),
      ((Machine.started params ctx).run inputs).actor.phase = .connecting →
        let m := (Machine.started params ctx).run inputs
        let host := link.getD params.server.host
        ((m.step (.signal (.frame .create
            (.sessionOk sessionId requestLimit keepalive link)))).run more).actor.control =
          { params.server with host, port := (m.ctx.ports.portFor host params.server.port).1 }) ∧
    (∀ (nPorts : Nat) (calls : List (String × Nat)),
      (∀ h, calls.countP (·.1 = h) < Nat.pow 2 64) →
      (∀ c ∈ calls, c.2 + max nPorts 1 - 1 ≤ maxPort) → ∀ k,
        (PortRotator.portsFor ⟨nPorts, []⟩ calls)[k]? = calls[k]?.map fun c =>
          c.2 + (calls.take k).countP (·.1 = c.1) % max nPorts 1) ∧
    (∀ (config : ClientConfig) (refusal : OsError) (t : LoadTest),
      config.check = .ok () → LoadTest.create config refusal = .ok t →
        t.ctx.ports = ⟨config.clientOptions.nPorts, []⟩ ∧
          config.port + max config.clientOptions.nPorts 1 - 1 ≤ maxPort) := by
  refine ⟨?ports, ?counter, ?instances, ?bind, ?room, ?checked⟩
  case ports => exact PortRotator.portsFor_fresh
  case counter => exact RotationCounter.ofPeriod_next_skip
  case instances =>
    intro config refusal t itemss h hfew
    exact LoadTest.connect_shard h itemss hfew
  case bind =>
    intro params ctx inputs more sessionId requestLimit keepalive link h
    exact (Machine.control_created params ctx inputs more h sessionId requestLimit keepalive
      link).1
  case room => exact PortRotator.portsFor_fresh_of_room
  case checked =>
    intro config refusal t hcheck h
    -- the sessions' context starts with a fresh rotator over the configured ports
    refine ⟨?_, ClientConfig.port_room hcheck⟩
    rw [(LoadTest.create_eq_ok h).2.2]
    rfl

theorem sessions_rotate_in_sample :
    let calls : List (String × Nat) := [("a", 8080), ("b", 9000), ("a", 8080)]
    let config : ClientConfig :=
      { protocol := "ws://", host := "localhost", port := 8080, adapterSetName := "LOAD_TEST",
        numberOfSessions := 100, itemsPerSession := 5, minCreatePool := 2, serverPorts := 3,
        numberOfItems := 500, numberOfFields := 10, subscriptionMode := "MERGE" }
    let refusal : OsError := ⟨"Connection refused", 111⟩
    let t : LoadTest :=
      { config, transport := .wsStreaming, ctx := Context.ofOptions config.clientOptions,
        instances := RotationCounter.ofPeriod config.clientOptions.nInstances, refusal }
    let params : SessionParams := ⟨⟨"localhost", 8080, false, 0⟩, "DEMO", none, none, .wsStreaming⟩
    (∀ h, calls.countP (·.1 = h) < Nat.pow 2 64) ∧
    (PortRotator.portsFor ⟨3, []⟩ calls)[2]? = calls[2]?.map (fun c =>
      min (c.2 + (calls.take 2).countP (·.1 = c.1) % max 3 1) maxPort) ∧
    4 < Nat.pow 2 64 ∧ ((RotationCounter.ofPeriod 3).skip 4).next.1 = 4 % max 3 1 ∧
    LoadTest.create config refusal = .ok t ∧ [["i1"]].length < Nat.pow 2 64 ∧
    ((t.runAll [["i1"]]).connect).1.map (·.server.shard) =
      (PoolKey.ofUrl config.serverUrl 0).map
        (fun _ => [["i1"]].length % max config.clientOptions.nInstances 1) ∧
    ((Machine.started params {}).run []).actor.phase = .connecting ∧
    ((((Machine.started params {}).run []).step (.signal (.frame .create
        (.sessionOk "S1" 50000 5000 (some "push.example"))))).run []).actor.control =
      { params.server with
        host := "push.example"
        port := (((Machine.started params {}).run []).ctx.ports.portFor "push.example" 8080).1 } ∧
    (∀ c ∈ calls, c.2 + max 3 1 - 1 ≤ maxPort) ∧
    (PortRotator.portsFor ⟨3, []⟩ calls)[2]? = calls[2]?.map (fun c =>
      c.2 + (calls.take 2).countP (·.1 = c.1) % max 3 1) ∧
    config.check = .ok () ∧ t.ctx.ports = ⟨config.clientOptions.nPorts, []⟩ ∧
      config.port + max config.clientOptions.nPorts 1 - 1 ≤ maxPort := by
  intro calls config refusal t params
  have hfew : ∀ h, calls.countP (·.1 = h) < Nat.pow 2 64 := fun h =>
    Nat.lt_of_le_of_lt List.countP_le_length (by decide)
  have hcreate : LoadTest.create config refusal = .ok t := by cbv
  have hconnecting : ((Machine.started params {}).run []).actor.phase = .connecting := by
    simp [Machine.started_eq]
  have hroom : ∀ c ∈ calls, c.2 + max 3 1 - 1 ≤ maxPort := by decide
  have hcheck : config.check = .ok () := by cbv
  have hrot := sessions_rotate_ports_and_instances
  exact ⟨hfew, hrot.1 3 calls hfew 2, by decide, hrot.2.1 3 4 (by decide), hcreate, by decide,
    hrot.2.2.1 config refusal t [["i1"]] hcreate (by decide), hconnecting,
    hrot.2.2.2.1 params {} [] [] "S1" 50000 5000 (some "push.example") hconnecting, hroom,
    hrot.2.2.2.2.1 3 calls hfew hroom 2, hcheck, hrot.2.2.2.2.2 config refusal t hcheck hcreate⟩

end TlcpLoad
