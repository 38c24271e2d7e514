import Mathlib
import TlcpLoad.Proofs.Session.Counters
import TlcpLoad.Proofs.Session.Coherence

/-! # The counters along runs and across sessions

Along a run of a session the turns' counts add up (`Machine.RunTally`): the counters move by
the milestones reached, and by at most one error, counted by the handler whose turn ended the
session. The milestones of every state a session reaches are in order (`Machine.Milestones`):
a live session has got as far as its phase says, and nothing is reached once it has ended.

The sessions of one client share its context (`Fleet`), each turn seeing the counters as the
last turn of any session left them. The counters then read the milestones all sessions
reached together, so they keep the same order while they do not wrap around. -/

namespace TlcpLoad

namespace Machine

/-! ## Along a run -/

/-- A place in a list is in its front or is its last element. -/
theorem exists_split_append_singleton {α : Type} {P : List α → α → Prop} (xs : List α) (x : α) :
    (∃ pre i post, xs ++ [x] = pre ++ i :: post ∧ P pre i) ↔
      (∃ pre i post, xs = pre ++ i :: post ∧ P pre i) ∨ P xs x := by
  constructor
  · rintro ⟨pre, i, post, h, hp⟩
    rcases List.eq_nil_or_concat post with rfl | ⟨post', y, rfl⟩
    · obtain ⟨rfl, hx⟩ := List.append_inj' h rfl
      rw [List.singleton_inj] at hx
      exact .inr (hx ▸ hp)
    · rw [List.concat_eq_append, ← List.cons_append, ← List.append_assoc] at h
      exact .inl ⟨pre, i, post', (List.append_inj' h rfl).1, hp⟩
  · rintro (⟨pre, i, post, rfl, hp⟩ | hp)
    · exact ⟨pre, i, post ++ [x], by simp, hp⟩
    · exact ⟨xs, x, [], rfl, hp⟩

/-- What a run of `inputs` from `m` adds to the counters, `L`: the milestones reached on the
    way, and at most one error, counted by the handler whose turn ended the session. -/
structure RunTally (m : Machine) (inputs : List Input) (L : List Counter) : Prop where
  tallied : Tallied m (m.run inputs) L
  errors : L.count .connErrors + L.count .socketErrors ≤ 1
  live : (m.run inputs).actor.phase ≠ .disconnected →
    L.count .connErrors + L.count .socketErrors = 0
  sessionError : L.count .socketErrors = 1 ↔
    ∃ pre i post, inputs = pre ++ i :: post ∧ (m.run pre).EndsBySessionError i
  connectionError : L.count .connErrors = 1 ↔
    ∃ pre i post, inputs = pre ++ i :: post ∧ (m.run pre).EndsByConnectionError i

theorem RunTally.nil (m : Machine) : RunTally m [] [] where
  tallied := Tallied.refl m
  errors := by simp
  live _ := by simp
  sessionError := by simp
  connectionError := by simp

theorem run_append_singleton (m : Machine) (inputs : List Input) (i : Input) :
    m.run (inputs ++ [i]) = (m.run inputs).step i := by
  rw [run_append]
  rfl

/-- One more turn: its error, if any, is the first, since the session was live before it. -/
theorem RunTally.snoc {m : Machine} {inputs : List Input} {i : Input} {L l : List Counter}
    (h : RunTally m inputs L) (hs : StepTally (m.run inputs) i l) :
    RunTally m (inputs ++ [i]) (L ++ l) := by
  -- errors are never counted both before the turn and in it
  have hfirst : l.count .connErrors + l.count .socketErrors = 0 ∨
      L.count .connErrors + L.count .socketErrors = 0 := by
    by_cases hz : l.count .connErrors + l.count .socketErrors = 0
    · exact .inl hz
    · exact .inr (h.live (hs.live_of_errors hz))
  have hl := hs.errors
  have hL := h.errors
  refine ⟨?_, ?_, fun hlive => ?_, ?_, ?_⟩
  · rw [run_append_singleton]
    exact h.tallied.trans hs.tallied
  · simp only [List.count_append]
    omega
  · rw [run_append_singleton] at hlive
    have hz : l.count .connErrors + l.count .socketErrors = 0 :=
      Classical.byContradiction fun hz => hlive (hs.ends_of_errors hz)
    have hL0 := h.live ((reports_step _ i).live hlive)
    simp only [List.count_append]
    omega
  · rw [exists_split_append_singleton (P := fun pre i => (m.run pre).EndsBySessionError i),
      ← h.sessionError, ← hs.sessionError_iff, List.count_append]
    omega
  · rw [exists_split_append_singleton (P := fun pre i => (m.run pre).EndsByConnectionError i),
      ← h.connectionError, ← hs.connectionError_iff, List.count_append]
    omega

/-- Every run is counted as `RunTally` says. -/
theorem run_tally (m : Machine) (inputs : List Input) : ∃ L, RunTally m inputs L := by
  induction inputs using List.reverseRecOn with
  | nil => exact ⟨[], RunTally.nil m⟩
  | append_singleton inputs i ih =>
    obtain ⟨L, hL⟩ := ih
    obtain ⟨l, hl⟩ := step_tally (m.run inputs) i
    exact ⟨L ++ l, hL.snoc hl⟩

/-! ## How far a session got -/

/-- The order of the milestones: a session is created at most once, opens its bind connection
    only once created, is bound only once it opened one, and subscribes only once bound. -/
structure Milestones (m : Machine) : Prop where
  createdOnce : m.reached .createDone ≤ 1
  bindAfterCreate : m.reached .bindPending ≤ m.reached .createDone
  boundAfterBind : m.reached .bindDone ≤ m.reached .bindPending
  subscribedAfterBound : m.reached .subPending ≤ m.reached .bindDone

/-- A session that posted one create request reached each milestone at most once. -/
theorem Milestones.reached_le_one {m : Machine} (h : Milestones m)
    (hcreated : m.reached .createPending = 1) (ms : Milestone) : m.reached ms ≤ 1 := by
  have := h.createdOnce
  have := h.bindAfterCreate
  have := h.boundAfterBind
  have := h.subscribedAfterBound
  cases ms <;> omega

theorem Milestones.of_reached_eq {m m' : Machine} (h : Milestones m)
    (hr : m'.reached = m.reached) : Milestones m' := by
  refine ⟨?_, ?_, ?_, ?_⟩ <;> rw [hr]
  exacts [h.createdOnce, h.bindAfterCreate, h.boundAfterBind, h.subscribedAfterBound]

theorem Phase.count_trail_streamSensing (t : Transport) (p : Phase) :
    (Phase.trail t p).count .streamSensing =
      if p = .connecting ∨ p = .disconnected then 0 else 1 := by
  cases t <;> cases p <;> decide

theorem Phase.count_trail_streaming (t : Transport) (p : Phase) :
    (Phase.trail t p).count (Status.streaming t) = if p = .bound then 1 else 0 := by
  cases t <;> cases p <;> decide

section Live

variable {m : Machine} (hlive : m.actor.phase ≠ .disconnected)
include hlive

/-- A live session reported stream-sensing once it was created. -/
theorem reached_createDone_of_live (hl : Lifecycle m) :
    m.reached .createDone = if m.actor.phase = .connecting then 0 else 1 := by
  simp only [reached, hl.trail hlive, Phase.count_trail_streamSensing, hlive, or_false]

/-- A live session reported streaming once it was bound. -/
theorem reached_bindDone_of_live (hl : Lifecycle m) :
    m.reached .bindDone = if m.actor.phase = .bound then 1 else 0 := by
  simp only [reached, hl.trail hlive, Phase.count_trail_streaming]

/-- A live session has opened its bind connection once it is binding. -/
theorem reached_bindPending_of_live (hc : m.actor.Coherent) (ht : Tracked m) :
    m.reached .bindPending = if m.actor.phase = .binding ∨ m.actor.phase = .bound then 1 else 0 := by
  have hb : (m.effects.filterMap Effect.bindTarget?).length =
      m.actor.binding.toList.length + m.actor.stream.toList.length := by
    rw [← ht.held hlive]
    simp [Actor.heldTargets]
  simp only [reached, hb, Option.length_toList, hc.binding, hc.stream]
  cases m.actor.phase <;> rfl

/-- A live session has subscribed only once bound. -/
theorem reached_subPending_of_live (hc : m.actor.Coherent) :
    m.reached .subPending ≤ if m.actor.phase = .bound then 1 else 0 := by
  have hsub := hc.subscription
  simp only [reached, subscribed]
  cases hs : m.actor.subscription.isSome
  · exact Nat.zero_le _
  · simp [(hsub hs).resolve_right hlive]

/-- A live session has got as far as its phase says, so its milestones are in order. -/
theorem milestones_of_live (hc : m.actor.Coherent) (ht : Tracked m) (hl : Lifecycle m) :
    Milestones m := by
  have hcreate := reached_createDone_of_live hlive hl
  have hbind := reached_bindPending_of_live hlive hc ht
  have hbound := reached_bindDone_of_live hlive hl
  have hsub := reached_subPending_of_live hlive hc
  -- every milestone is read off the phase
  cases hp : m.actor.phase with
  | disconnected => exact absurd hp hlive
  | connecting | connected | binding | bound =>
    simp [hp] at hcreate hbind hbound hsub
    exact ⟨by omega, by omega, by omega, by omega⟩

end Live

/-- The invariants a session keeps at every turn, and what they give for its milestones. -/
structure Sound (m : Machine) : Prop where
  coherent : m.actor.Coherent
  tracked : Tracked m
  lifecycle : Lifecycle m
  milestones : Milestones m

/-- Every turn keeps `Sound`: a live state gets as far as its phase says, and the turn that ends
    the session, like every turn after it, reaches nothing. -/
theorem Sound.step {m : Machine} (h : Sound m) (i : Input) : Sound (m.step i) := by
  have hc := coherent_step h.coherent i
  have ht := tracked_step h.coherent h.tracked i
  have hl := h.lifecycle.step (reports_step m i)
  refine ⟨hc, ht, hl, ?_⟩
  by_cases hd : (m.step i).actor.phase = .disconnected
  · obtain ⟨l, hs⟩ := step_tally m i
    exact h.milestones.of_reached_eq (hs.ended hd)
  · exact milestones_of_live hd hc ht hl

theorem sound_started (params : SessionParams) (ctx : Context) : Sound (started params ctx) := by
  have hc := coherent_started params ctx
  have ht : Tracked (started params ctx) := by
    rw [started_eq]
    exact ⟨fun _ => by simp [Actor.heldTargets, Effect.bindTarget?, List.filterMap_cons],
      by simp [Effect.bindTarget?, List.filterMap_cons]⟩
  have hl := lifecycle_started params ctx
  exact ⟨hc, ht, hl, milestones_of_live (by simp [started_eq]) hc ht hl⟩

theorem sound_run (params : SessionParams) (ctx : Context) (inputs : List Input) :
    Sound ((started params ctx).run inputs) :=
  run_induction (sound_started params ctx) (fun _ i h => h.step i) inputs

/-- A sound session posted its create request once. -/
theorem Sound.reached_createPending {m : Machine} (h : Sound m) :
    m.reached .createPending = 1 := by
  simp [reached, h.lifecycle.created]

@[simp] theorem reached_init (params : SessionParams) (ctx : Context) (ms : Milestone) :
    (init params ctx).reached ms = 0 := by
  cases ms <;> rfl

/-- Starting counts the create request, the one milestone a session has reached from the
    first. -/
theorem tallied_started (params : SessionParams) (ctx : Context) :
    Tallied (init params ctx) (started params ctx) [.createPending] where
  bumps := Bumps.of_inc rfl
  reached ms := by
    cases ms <;> simp [started_eq, init, reached, statuses, subscribed, List.filterMap_cons,
      Effect.created?, Effect.status?, Effect.bindTarget?, Milestone.counter]

/-- A counter's increment is how many more times the milestone was reached, when few. -/
theorem Tallied.increment_reached {m m' : Machine} {l : List Counter} (h : Tallied m m' l)
    (ms : Milestone) (h₀ : m.reached ms = 0) (hsmall : m'.reached ms < Nat.pow 2 64) :
    (m'.ctx.stats.get ms.counter - m.ctx.stats.get ms.counter).toNat = m'.reached ms := by
  have hcount : l.count ms.counter = m'.reached ms := by
    rw [← h.reached, h₀, Nat.zero_add]
  rw [h.bumps.increment _ (hcount ▸ hsmall), hcount]

/-- What a run of a session adds to the counters: to each milestone's counter, the number of
    times the session reached it; to each error counter, the errors its turns counted. -/
theorem session_gains (params : SessionParams) (ctx : Context) (inputs : List Input) :
    let m := (started params ctx).run inputs
    ∃ L, RunTally (started params ctx) inputs L ∧
      (∀ ms : Milestone,
        (m.ctx.stats.get ms.counter - ctx.stats.get ms.counter).toNat = m.reached ms) ∧
      ∀ c, c = .connErrors ∨ c = .socketErrors →
        (m.ctx.stats.get c - ctx.stats.get c).toNat = L.count c := by
  intro m
  obtain ⟨L, hL⟩ := run_tally (started params ctx) inputs
  have ht := (tallied_started params ctx).trans hL.tallied
  have hsound := sound_run params ctx inputs
  refine ⟨L, hL, fun ms => ?_, fun c hc => ?_⟩
  · -- each milestone is reached at most once
    exact ht.increment_reached ms (reached_init params ctx ms) (Nat.lt_of_le_of_lt
      (hsound.milestones.reached_le_one hsound.reached_createPending ms) (by decide))
  · -- starting counts no error, and the run at most one
    have hcount : ([Counter.createPending] ++ L).count c = L.count c := by
      rcases hc with rfl | rfl <;> simp
    have hle : L.count c ≤ 1 := by
      have := hL.errors
      rcases hc with rfl | rfl <;> omega
    rw [← hcount]
    exact ht.bumps.increment c (hcount ▸ Nat.lt_of_le_of_lt hle (by decide))

end Machine

/-! ## The sessions of one client -/

/-- The sessions of one client. Each runs as its own actor, and all of them read and update the
    client's context (statistics, port rotation, id counters): a turn of any session sees the
    context as the turn before it, of whichever session, left it. -/
structure Fleet where
  ctx : Context
  sessions : List Machine

/-- What the sessions of a client take in: a new session, or an input to the `k`th one. -/
inductive FleetInput where
  | start (params : SessionParams)
  | input (k : Nat) (i : Input)

namespace Fleet

/-- A client just made, with no session. -/
def fresh (options : ClientOptions) : Fleet :=
  ⟨Context.ofOptions options, []⟩

/-- One turn: a session starts, or the `k`th session takes an input, in the shared context. -/
def step (f : Fleet) : FleetInput → Fleet
  | .start params =>
    let m := Machine.started params f.ctx
    ⟨m.ctx, f.sessions ++ [m]⟩
  | .input k i =>
    match f.sessions[k]? with
    | some m =>
      let m' := { m with ctx := f.ctx }.step i
      ⟨m'.ctx, f.sessions.set k m'⟩
    | none => f

/-- The client after taking in `inputs`, in order. -/
def run (f : Fleet) (inputs : List FleetInput) : Fleet :=
  inputs.foldl step f

/-- How many times the sessions together have reached a milestone. -/
def reached (f : Fleet) (ms : Milestone) : Nat :=
  (f.sessions.map (·.reached ms)).sum

theorem step_start (f : Fleet) (params : SessionParams) :
    f.step (.start params) =
      ⟨(Machine.started params f.ctx).ctx, f.sessions ++ [Machine.started params f.ctx]⟩ :=
  rfl

theorem step_input {f : Fleet} {k : Nat} {m : Machine} (hk : f.sessions[k]? = some m)
    (i : Input) :
    f.step (.input k i) =
      ⟨({ m with ctx := f.ctx }.step i).ctx, f.sessions.set k ({ m with ctx := f.ctx }.step i)⟩ := by
  simp [step, hk]

theorem step_input_of_none {f : Fleet} {k : Nat} (hk : f.sessions[k]? = none) (i : Input) :
    f.step (.input k i) = f := by
  simp [step, hk]

end Fleet

namespace Machine

theorem reached_withCtx (m : Machine) (ctx : Context) :
    ({ m with ctx } : Machine).reached = m.reached := by
  funext ms
  cases ms <;> rfl

/-- The invariants do not look at the context. -/
theorem Sound.withCtx {m : Machine} (h : Sound m) (ctx : Context) : Sound { m with ctx } where
  coherent := h.coherent
  tracked := ⟨h.tracked.held, h.tracked.once⟩
  lifecycle := ⟨h.lifecycle.trail, h.lifecycle.ended, h.lifecycle.shown, h.lifecycle.created,
    h.lifecycle.unfailed, h.lifecycle.failedOnce, h.lifecycle.afterDisconnected⟩
  milestones := h.milestones.of_reached_eq (reached_withCtx m ctx)

end Machine

namespace Fleet

/-- Replacing one element changes the sum of a map by the difference. -/
theorem sum_map_set {α : Type} (f : α → Nat) (l : List α) (k : Nat) (x y : α)
    (h : l[k]? = some x) : ((l.set k y).map f).sum + f x = (l.map f).sum + f y := by
  induction l generalizing k with
  | nil => simp at h
  | cons a l ih =>
    cases k with
    | zero =>
      simp only [List.getElem?_cons_zero, Option.some.injEq] at h
      subst h
      simp only [List.set_cons_zero, List.map_cons, List.sum_cons]
      omega
    | succ k =>
      have hrest := ih k (by simpa using h)
      simp only [List.set_cons_succ, List.map_cons, List.sum_cons]
      omega

/-- The counters of a client, from `base`, count what its sessions reached, all sound. -/
structure Counted (f : Fleet) (base : Stats) : Prop where
  sound : ∀ m ∈ f.sessions, m.Sound
  counters : ∀ ms, f.ctx.stats.get ms.counter = base.get ms.counter + UInt64.ofNat (f.reached ms)

/-- A turn that adds the same counts to the counters and to what the sessions reached keeps
    the counters reading the sessions. -/
theorem counters_of_tallied {f f' : Fleet} {base : Stats} {l : List Counter}
    (h : ∀ ms, f.ctx.stats.get ms.counter = base.get ms.counter + UInt64.ofNat (f.reached ms))
    (hb : ∀ c, f'.ctx.stats.get c = f.ctx.stats.get c + UInt64.ofNat (l.count c))
    (hr : ∀ ms, f'.reached ms = f.reached ms + l.count ms.counter) (ms : Milestone) :
    f'.ctx.stats.get ms.counter = base.get ms.counter + UInt64.ofNat (f'.reached ms) := by
  rw [hb, h, hr, UInt64.ofNat_add, UInt64.add_assoc]

theorem Counted.step {f : Fleet} {base : Stats} (h : f.Counted base) (i : FleetInput) :
    (f.step i).Counted base := by
  cases i with
  | start params =>
    -- the new session has reached what starting counted: its create request
    have ht := Machine.tallied_started params f.ctx
    rw [step_start]
    refine ⟨fun m hm => ?_, counters_of_tallied h.counters ht.bumps fun ms => ?_⟩
    · rcases List.mem_append.1 hm with hm | hm
      · exact h.sound m hm
      · rw [List.mem_singleton.1 hm]
        exact Machine.sound_started params f.ctx
    · have hreach := ht.reached ms
      rw [Machine.reached_init, Nat.zero_add] at hreach
      simp only [reached, List.map_append, List.sum_append, List.map_cons, List.map_nil,
        List.sum_cons, List.sum_nil, Nat.add_zero, hreach]
  | input k i =>
    cases hk : f.sessions[k]? with
    | none => rwa [step_input_of_none hk]
    | some m =>
      -- the session takes its turn in the shared context, in its place in the list
      obtain ⟨l, hl⟩ := Machine.step_tally { m with ctx := f.ctx } i
      have hsound := h.sound m (List.mem_of_getElem? hk)
      rw [step_input hk]
      refine ⟨fun m' hm' => ?_, counters_of_tallied h.counters hl.tallied.bumps fun ms => ?_⟩
      · rcases List.mem_or_eq_of_mem_set hm' with hm' | rfl
        · exact h.sound m' hm'
        · exact (hsound.withCtx f.ctx).step i
      · have hreach := hl.tallied.reached ms
        rw [Machine.reached_withCtx] at hreach
        have hsum := sum_map_set (·.reached ms) f.sessions k m ({ m with ctx := f.ctx }.step i) hk
        simp only [reached]
        omega

theorem counted_run {f : Fleet} {base : Stats} (h : f.Counted base) (inputs : List FleetInput) :
    (f.run inputs).Counted base := by
  induction inputs generalizing f with
  | nil => exact h
  | cons i inputs ih => exact ih (h.step i)

theorem counted_fresh (options : ClientOptions) : (fresh options).Counted {} where
  sound _ h := absurd h List.not_mem_nil
  counters ms := by simp [fresh, reached, Context.ofOptions]

/-- Summed over the sessions, there is one create request per session and the milestones keep
    their order. -/
theorem Counted.reached_ordered {f : Fleet} {base : Stats} (h : f.Counted base) :
    f.reached .createPending = f.sessions.length ∧
      f.reached .createDone ≤ f.reached .createPending ∧
      f.reached .bindPending ≤ f.reached .createDone ∧
      f.reached .bindDone ≤ f.reached .bindPending ∧
      f.reached .subPending ≤ f.reached .bindDone := by
  have hcreated : ∀ m ∈ f.sessions, m.reached .createPending = 1 := fun m hm =>
    (h.sound m hm).reached_createPending
  have hone : f.reached .createPending = f.sessions.length := by
    rw [reached, List.map_congr_left hcreated]
    simp
  refine ⟨hone, ?_, ?_, ?_, ?_⟩
  · exact List.sum_le_sum fun m hm =>
      (h.sound m hm).milestones.createdOnce.trans (hcreated m hm).ge
  · exact List.sum_le_sum fun m hm => (h.sound m hm).milestones.bindAfterCreate
  · exact List.sum_le_sum fun m hm => (h.sound m hm).milestones.boundAfterBind
  · exact List.sum_le_sum fun m hm => (h.sound m hm).milestones.subscribedAfterBound

theorem ofNat_le_ofNat {a b : Nat} (hab : a ≤ b) (hb : b < Nat.pow 2 64) :
    UInt64.ofNat a ≤ UInt64.ofNat b := by
  rw [UInt64.le_iff_toNat_le, UInt64.toNat_ofNat_of_lt' (Nat.lt_of_le_of_lt hab hb),
    UInt64.toNat_ofNat_of_lt' hb]
  exact hab

/-- The counters of a client that was never reset, while it has had fewer than 2^64
    sessions: creations done never outnumber creations asked for, binds done never outnumber
    binds asked for, which never outnumber creations done, and subscriptions never outnumber
    binds done. -/
theorem counters_ordered (options : ClientOptions) (inputs : List FleetInput)
    (hsessions : ((fresh options).run inputs).sessions.length < Nat.pow 2 64) :
    let s := ((fresh options).run inputs).ctx.stats
    s.createDone ≤ s.createPending ∧ s.bindDone ≤ s.bindPending ∧
      s.bindPending ≤ s.createDone ∧ s.subPending ≤ s.bindDone := by
  intro s
  have h := counted_run (counted_fresh options) inputs
  obtain ⟨hone, hcreated, hbind, hbound, hsub⟩ := h.reached_ordered
  -- every counter reads what the sessions reached, each sum at most the number of sessions
  have hle : ∀ ms ms' : Milestone, ((fresh options).run inputs).reached ms ≤
      ((fresh options).run inputs).reached ms' →
      ((fresh options).run inputs).reached ms' ≤ ((fresh options).run inputs).sessions.length →
      s.get ms.counter ≤ s.get ms'.counter := by
    intro ms ms' hms hms'
    rw [h.counters ms, h.counters ms', Stats.get_empty, Stats.get_empty, UInt64.zero_add,
      UInt64.zero_add]
    exact ofNat_le_ofNat hms (Nat.lt_of_le_of_lt hms' hsessions)
  exact ⟨hle .createDone .createPending hcreated hone.le,
    hle .bindDone .bindPending hbound (by omega),
    hle .bindPending .createDone hbind (by omega),
    hle .subPending .bindDone hsub (by omega)⟩

end Fleet

/-- The increments each session makes to the counters, over any run of it, and what they add
    up to for a client never reset. A session counts one create request, at most one creation
    done, a bind only once created, a bind done only once bound, a subscription only once bound,
    and at most one error: a session error exactly when a turn ended it through the
    session-error handler, a connection error exactly when one ended it through the
    connection-error handler. Summed over the sessions of a client, while it has had fewer
    than 2^64 of them, the counters keep the same order. -/
theorem counters_track_sessions :
    (∀ (params : SessionParams) (ctx : Context) (inputs : List Input),
      let m := (Machine.started params ctx).run inputs
      let gain : Counter → Nat := fun c => (m.ctx.stats.get c - ctx.stats.get c).toNat
      gain .createPending = 1 ∧ gain .createDone ≤ 1 ∧ gain .bindPending ≤ gain .createDone ∧
        gain .bindDone ≤ gain .bindPending ∧ gain .subPending ≤ gain .bindDone ∧
        gain .connErrors + gain .socketErrors ≤ 1 ∧
        (gain .socketErrors = 1 ↔ ∃ pre i post, inputs = pre ++ i :: post ∧
          ((Machine.started params ctx).run pre).EndsBySessionError i) ∧
        (gain .connErrors = 1 ↔ ∃ pre i post, inputs = pre ++ i :: post ∧
          ((Machine.started params ctx).run pre).EndsByConnectionError i)) ∧
    (∀ (options : ClientOptions) (inputs : List FleetInput),
      ((Fleet.fresh options).run inputs).sessions.length < Nat.pow 2 64 →
      let s := ((Fleet.fresh options).run inputs).ctx.stats
      s.createDone ≤ s.createPending ∧ s.bindDone ≤ s.bindPending ∧
        s.bindPending ≤ s.createDone ∧ s.subPending ≤ s.bindDone) := by
  refine ⟨fun params ctx inputs => ?_, Fleet.counters_ordered⟩
  intro m gain
  obtain ⟨L, hL, hreached, herror⟩ := Machine.session_gains params ctx inputs
  have hsound := Machine.sound_run params ctx inputs
  have hm := hsound.milestones
  have hcp : gain .createPending = 1 :=
    (hreached .createPending).trans hsound.reached_createPending
  have hcd : gain .createDone = m.reached .createDone := hreached .createDone
  have hbp : gain .bindPending = m.reached .bindPending := hreached .bindPending
  have hbd : gain .bindDone = m.reached .bindDone := hreached .bindDone
  have hsp : gain .subPending = m.reached .subPending := hreached .subPending
  have hse : gain .socketErrors = L.count .socketErrors := herror .socketErrors (.inr rfl)
  have hce : gain .connErrors = L.count .connErrors := herror .connErrors (.inl rfl)
  rw [hcd, hbp, hbd, hsp, hse, hce]
  exact ⟨hcp, hm.createdOnce, hm.bindAfterCreate, hm.boundAfterBind, hm.subscribedAfterBound,
    hL.errors, hL.sessionError, hL.connectionError⟩

/-- Two sessions of a fresh client, the first created in between: the counters are in order. -/
theorem counters_two_sessions :
    let params : SessionParams :=
      { server := ⟨"localhost", 8080, false, 0⟩, adapterSet := "DEMO", transport := .wsStreaming }
    let s := ((Fleet.fresh {}).run [.start params,
      .input 0 (.signal (.frame .create (.sessionOk "S1" 50000 5000 none))), .start params]).ctx.stats
    s.createDone ≤ s.createPending ∧ s.bindDone ≤ s.bindPending ∧
      s.bindPending ≤ s.createDone ∧ s.subPending ≤ s.bindDone :=
  counters_track_sessions.2 {} _ (by simp [Fleet.run, Fleet.step, Fleet.fresh])

end TlcpLoad
