import Mathlib
import TlcpLoad.Net.Pool

/-! # What the socket pool hands out

`acquire` takes the idle sockets of its key in one fixed order, newest first for a
last-in-first-out pool and oldest first otherwise (`takeOrder`): it closes the stale ones it
meets and hands out the first reusable one, which leaves the rest of the queue as it was
(`acquire_eq`). So a key's idle sockets leave the pool only by being handed out or closed as
stale, the count drops by exactly those, and other keys are never touched.

Across many callers the pool changes by atomic steps: taking one idle socket of a key off its
queue, and giving a socket back (`Step`). Callers own the sockets they hold, so none gives back
a socket the pool still holds (`Owned`). Along every such run each idle socket sits in one
queue, once, and was last given back healthy under that queue's key (`Filed`); hence a socket
taken off a queue was last given back under that key, and no socket is taken twice without
being given back in between.

The main statement is `SocketPool.acquire_release_laws`. -/

namespace TlcpLoad.SocketPool

variable {σ : Type}

/-! ## The order of taking -/

/-- The idle sockets of a key in the order `takeIdle` takes them. -/
def takeOrder (p : SocketPool σ) (key : PoolKey) : List σ :=
  if p.lifo then (p.idle key).reverse else p.idle key

/-- The queue whose take order is `order`. -/
def queueOf (lifo : Bool) (order : List σ) : List σ :=
  if lifo then order.reverse else order

theorem setIdle_setIdle (p : SocketPool σ) (key : PoolKey) (q q' : List σ) :
    (p.setIdle key q).setIdle key q' = p.setIdle key q' := by
  cases p
  simp only [setIdle, SocketPool.mk.injEq, true_and]
  funext k
  split <;> rfl

theorem setIdle_self (p : SocketPool σ) (key : PoolKey) : p.setIdle key (p.idle key) = p := by
  cases p
  simp only [setIdle, SocketPool.mk.injEq, true_and]
  funext k
  split <;> simp_all

theorem takeOrder_setIdle (p : SocketPool σ) (key : PoolKey) (order : List σ) :
    (p.setIdle key (queueOf p.lifo order)).takeOrder key = order := by
  cases h : p.lifo <;> simp [takeOrder, queueOf, h]

theorem queueOf_takeOrder (p : SocketPool σ) (key : PoolKey) :
    queueOf p.lifo (p.takeOrder key) = p.idle key := by
  cases h : p.lifo <;> simp [takeOrder, queueOf, h]

theorem mem_takeOrder {p : SocketPool σ} {key : PoolKey} {s : σ} :
    s ∈ p.takeOrder key ↔ s ∈ p.idle key := by
  cases h : p.lifo <;> simp [takeOrder, h]

/-- `takeIdle` takes the first socket of the take order, and leaves the rest in order. -/
theorem takeIdle_eq (p : SocketPool σ) (key : PoolKey) :
    p.takeIdle key = match p.takeOrder key with
      | s :: rest => some (s, p.setIdle key (queueOf p.lifo rest))
      | [] => none := by
  unfold takeIdle takeOrder queueOf
  cases h : p.lifo
  · -- oldest first: the take order is the queue itself
    cases p.idle key <;> simp
  · simp only [if_true, List.getLast?_eq_head?_reverse]
    -- the newest socket heads the reversed queue, and the rest is the queue without it
    cases hr : (p.idle key).reverse with
    | nil => rfl
    | cons s rest =>
      have hdrop : (p.idle key).dropLast = rest.reverse := by
        rw [← List.reverse_reverse (p.idle key), hr]
        simp
      simp [hdrop]

/-- A take succeeds exactly when the take order has a first socket: it takes that one and
    leaves the rest in order. -/
theorem takeIdle_eq_some {p p' : SocketPool σ} {key : PoolKey} {s : σ} :
    p.takeIdle key = some (s, p') ↔
      ∃ rest, p.takeOrder key = s :: rest ∧ p' = p.setIdle key (queueOf p.lifo rest) := by
  rw [takeIdle_eq]
  cases p.takeOrder key with
  | nil => simp
  | cons t rest =>
    simp only [Option.some.injEq, Prod.mk.injEq, List.cons.injEq]
    constructor
    · rintro ⟨rfl, rfl⟩
      exact ⟨rest, ⟨rfl, rfl⟩, rfl⟩
    · rintro ⟨rest', ⟨rfl, rfl⟩, rfl⟩
      exact ⟨rfl, rfl⟩

theorem takeIdle_eq_none {p : SocketPool σ} {key : PoolKey} :
    p.takeIdle key = none ↔ p.takeOrder key = [] := by
  rw [takeIdle_eq]
  cases p.takeOrder key <;> simp

/-! ## One acquire -/

/-- `acquire` closes the stale sockets at the front of the take order and hands out the first
    reusable one, leaving the rest of the queue; with no reusable socket it closes them all and
    opens a new one. -/
theorem acquire_eq (p : SocketPool σ) (key : PoolKey) (reusable : σ → Bool) :
    p.acquire key reusable =
      ({ closed := (p.takeOrder key).takeWhile (fun s => !reusable s),
         reused := ((p.takeOrder key).dropWhile (fun s => !reusable s)).head? },
        p.setIdle key (queueOf p.lifo ((p.takeOrder key).dropWhile (fun s => !reusable s)).tail)) := by
  fun_induction p.acquire key reusable with
  | case1 p s p' htake hs =>
    obtain ⟨rest, horder, rfl⟩ := takeIdle_eq_some.1 htake
    simp [horder, hs]
  | case2 p s p' htake hs a p'' hrec ih =>
    obtain ⟨rest, horder, rfl⟩ := takeIdle_eq_some.1 htake
    -- the stale socket is closed, and the rest of the order is what the loop goes on with
    rw [hrec] at ih
    simp only [Prod.mk.injEq] at ih
    obtain ⟨rfl, rfl⟩ := ih
    simp [horder, hs, takeOrder_setIdle, setIdle_setIdle]
  | case3 p htake =>
    -- nothing idle: the pool is set back to the empty queue it had
    have horder := takeIdle_eq_none.1 htake
    have hq : queueOf p.lifo ([] : List σ) = p.idle key := by
      rw [← queueOf_takeOrder, horder]
    simp only [horder, List.takeWhile_nil, List.dropWhile_nil, List.head?_nil, List.tail_nil, hq,
      setIdle_self]

/-- Acquiring for one key leaves every other key's idle sockets. -/
theorem acquire_idle_of_ne (p : SocketPool σ) {key k : PoolKey} (hk : k ≠ key)
    (reusable : σ → Bool) : (p.acquire key reusable).2.idle k = p.idle k := by
  simp [acquire_eq, hk]

/-- Giving back a socket for one key leaves every other key's idle sockets. -/
theorem release_idle_of_ne (p : SocketPool σ) {key k : PoolKey} (hk : k ≠ key) (s : σ)
    (healthy : Bool) : (p.release key s healthy).idle k = p.idle k := by
  cases healthy <;> simp [release, hk]

/-- An unhealthy socket is closed: the pool is left as it was. -/
theorem release_unhealthy (p : SocketPool σ) (key : PoolKey) (s : σ) :
    p.release key s false = p := by
  simp [release]

theorem idle_release (p : SocketPool σ) (key k : PoolKey) (s : σ) (healthy : Bool) :
    (p.release key s healthy).idle k =
      if healthy = true ∧ k = key then p.idle k ++ [s] else p.idle k := by
  by_cases hk : k = key
  · subst hk
    cases healthy <;> simp [release]
  · cases healthy <;> simp [release, hk]

/-- A release adds at most the socket given back, and only to its key's queue. -/
theorem mem_idle_release {p : SocketPool σ} {key k : PoolKey} {s t : σ} {healthy : Bool} :
    t ∈ (p.release key s healthy).idle k ↔
      t ∈ p.idle k ∨ (healthy = true ∧ k = key ∧ t = s) := by
  rw [idle_release]
  split
  · rename_i hh
    simp [hh, or_comm]
  · rename_i hh
    simp only [iff_self_or, and_imp]
    exact fun h hk _ => absurd ⟨h, hk⟩ hh

/-- The idle sockets of the key are the closed ones, the handed-out one and those left. -/
theorem idle_perm_acquire (p : SocketPool σ) (key : PoolKey) (reusable : σ → Bool) :
    (p.idle key).Perm ((p.acquire key reusable).1.closed ++ (p.acquire key reusable).1.reused.toList ++
      (p.acquire key reusable).2.idle key) := by
  rw [acquire_eq]
  simp only [setIdle_idle, if_true]
  set order := p.takeOrder key
  have hsplit := List.takeWhile_append_dropWhile (p := fun s => !reusable s) (l := order)
  -- both sides are the take order, up to the reversal of a last-in-first-out queue
  have hq : ∀ l : List σ, (queueOf p.lifo l).Perm l := fun l => by
    cases p.lifo <;> simp [queueOf, List.reverse_perm]
  have hidle : (p.idle key).Perm order := by
    rw [← queueOf_takeOrder]
    exact hq order
  refine hidle.trans ?_
  conv_lhs => rw [← hsplit]
  rw [List.append_assoc]
  refine List.Perm.append_left _ ?_
  cases hrest : order.dropWhile (fun s => !reusable s) with
  | nil => simp [queueOf]
  | cons s rest => exact (List.Perm.cons s (hq rest).symm)

/-- After an acquire the key has as many idle sockets fewer as were closed and handed out. -/
theorem idleCount_acquire (p : SocketPool σ) (key : PoolKey) (reusable : σ → Bool) :
    p.idleCount key = (p.acquire key reusable).2.idleCount key +
      (p.acquire key reusable).1.closed.length + (p.acquire key reusable).1.reused.toList.length := by
  have := (idle_perm_acquire p key reusable).length_eq
  simp only [List.length_append] at this
  simp only [idleCount, this]
  omega

/-- A new socket is opened only when no idle socket of the key was reusable: all were closed,
    and none is left. -/
theorem acquire_opens_when_exhausted (p : SocketPool σ) (key : PoolKey) (reusable : σ → Bool)
    (h : (p.acquire key reusable).1.reused = none) :
    (p.acquire key reusable).2.idle key = [] ∧ ∀ s ∈ p.idle key, reusable s = false := by
  rw [acquire_eq] at h ⊢
  simp only [List.head?_eq_none_iff, List.dropWhile_eq_nil_iff, Bool.not_eq_eq_eq_not,
    Bool.not_true] at h
  refine ⟨?_, fun s hs => h s (mem_takeOrder.2 hs)⟩
  have hnil : (p.takeOrder key).dropWhile (fun s => !reusable s) = [] :=
    List.dropWhile_eq_nil_iff.2 fun s hs => by simp [h s hs]
  simp [hnil, queueOf]

/-! ## Runs of atomic steps -/

/-- One atomic step on a pool, under its lock: an idle socket of a key taken off its queue, or a
    socket given back. -/
inductive Step (σ : Type) where
  | take (key : PoolKey)
  | release (key : PoolKey) (socket : σ) (healthy : Bool)

/-- The pool after one step. -/
def step (p : SocketPool σ) : Step σ → SocketPool σ
  | .take key => ((p.takeIdle key).map Prod.snd).getD p
  | .release key s healthy => p.release key s healthy

/-- The pool after a run of steps. -/
def run (p : SocketPool σ) (steps : List (Step σ)) : SocketPool σ :=
  steps.foldl step p

/-- A socket is given back only by the caller that holds it, so never while the pool holds
    it: a socket is moved into `release`. -/
def Owned : SocketPool σ → List (Step σ) → Prop
  | _, [] => True
  | p, .take key :: steps => Owned (p.step (.take key)) steps
  | p, .release key s healthy :: steps =>
    (∀ k, s ∉ p.idle k) ∧ Owned (p.release key s healthy) steps

@[simp] theorem run_nil (p : SocketPool σ) : p.run [] = p :=
  rfl

@[simp] theorem run_cons (p : SocketPool σ) (x : Step σ) (steps : List (Step σ)) :
    p.run (x :: steps) = (p.step x).run steps :=
  rfl

@[simp] theorem step_release (p : SocketPool σ) (key : PoolKey) (s : σ) (healthy : Bool) :
    p.step (.release key s healthy) = p.release key s healthy :=
  rfl

theorem step_take_of_takeIdle {p p' : SocketPool σ} {key : PoolKey} {s : σ}
    (h : p.takeIdle key = some (s, p')) : p.step (.take key) = p' := by
  simp [step, h]

theorem run_append (p : SocketPool σ) (steps more : List (Step σ)) :
    p.run (steps ++ more) = (p.run steps).run more := by
  simp [run, List.foldl_append]

/-- The key and health of the last time a socket was given back in a run. -/
def lastRelease [DecidableEq σ] (s : σ) (steps : List (Step σ)) : Option (PoolKey × Bool) :=
  (steps.filterMap fun
    | .release key s' healthy => if s' = s then some (key, healthy) else none
    | .take _ => none).getLast?

/-- An acquire is its takes: as many as it closed and handed out sockets. -/
theorem acquire_run (p : SocketPool σ) (key : PoolKey) (reusable : σ → Bool) :
    (p.acquire key reusable).2 = p.run (List.replicate
      ((p.acquire key reusable).1.closed.length + (p.acquire key reusable).1.reused.toList.length)
      (.take key)) := by
  fun_induction p.acquire key reusable with
  | case1 p s p' htake hs =>
    simp [step_take_of_takeIdle htake]
  | case2 p s p' htake hs a p'' hrec ih =>
    rw [hrec] at ih
    simp only at ih ⊢
    rw [ih, List.length_cons, Nat.add_right_comm, List.replicate_succ, run_cons,
      step_take_of_takeIdle htake]
  | case3 p htake => rfl

theorem owned_append {p : SocketPool σ} {steps more : List (Step σ)} :
    Owned p (steps ++ more) ↔ Owned p steps ∧ Owned (p.run steps) more := by
  induction steps generalizing p with
  | nil => simp [Owned]
  | cons x steps ih =>
    cases x <;> simp only [List.cons_append, Owned, ih, run_cons, step_release, and_assoc]

/-- A socket taken off a queue was in it, and every queue keeps only sockets it had. -/
theorem takeIdle_mem {p p' : SocketPool σ} {key : PoolKey} {s : σ}
    (h : p.takeIdle key = some (s, p')) :
    s ∈ p.idle key ∧ ∀ k, (p'.idle k).Sublist (p.idle k) ∧
      (k = key → (s :: p'.idle k).Perm (p.idle k)) := by
  obtain ⟨rest, horder, rfl⟩ := takeIdle_eq_some.1 h
  have hidle : p.idle key = queueOf p.lifo (s :: rest) := by
    rw [← horder, queueOf_takeOrder]
  refine ⟨by rw [hidle]; cases p.lifo <;> simp [queueOf], fun k => ?_⟩
  by_cases hk : k = key
  · subst hk
    simp only [setIdle_idle, if_true, hidle, forall_const]
    cases p.lifo
    · simp [queueOf]
    · simp only [queueOf, if_true, List.reverse_cons]
      exact ⟨List.sublist_append_left _ _, List.perm_append_singleton _ _ |>.symm⟩
  · simp [hk]

/-- A take only removes: every queue after it is part of the queue before. -/
theorem idle_step_take_sublist (p : SocketPool σ) (key k : PoolKey) :
    ((p.step (.take key)).idle k).Sublist (p.idle k) := by
  cases htake : p.takeIdle key with
  | none => simp [step, htake]
  | some r =>
    rw [step_take_of_takeIdle htake]
    exact ((takeIdle_mem htake).2 k).1

/-- A socket that the pool does not hold stays out of it until it is given back healthy. -/
theorem not_mem_run {p : SocketPool σ} {s : σ} (hs : ∀ k, s ∉ p.idle k) {steps : List (Step σ)}
    (hno : ∀ key, Step.release key s true ∉ steps) : ∀ k, s ∉ (p.run steps).idle k := by
  induction steps generalizing p with
  | nil => simpa using hs
  | cons x steps ih =>
    have hno' : ∀ key, Step.release key s true ∉ steps := fun key hmem =>
      hno key (List.mem_cons_of_mem _ hmem)
    rw [run_cons]
    apply ih _ hno'
    intro k hk
    cases x with
    | take key => exact hs k ((idle_step_take_sublist p key k).subset hk)
    | release key s' healthy =>
      rcases mem_idle_release.1 hk with hk | ⟨hh, hk', he⟩
      · exact hs k hk
      · subst hh hk' he
        exact hno k List.mem_cons_self

/-- Every idle socket sits in one queue, once, and was last given back, healthy, under that
    queue's key. -/
structure Filed [DecidableEq σ] (p : SocketPool σ) (steps : List (Step σ)) : Prop where
  nodup : ∀ k, (p.idle k).Nodup
  unique : ∀ {k k' s}, s ∈ p.idle k → s ∈ p.idle k' → k = k'
  released : ∀ {k s}, s ∈ p.idle k → lastRelease s steps = some (k, true)

section Filed

variable [DecidableEq σ]

theorem lastRelease_take (s : σ) (steps : List (Step σ)) (key : PoolKey) :
    lastRelease s (steps ++ [.take key]) = lastRelease s steps := by
  simp [lastRelease]

theorem lastRelease_release (s s' : σ) (steps : List (Step σ)) (key : PoolKey) (healthy : Bool) :
    lastRelease s (steps ++ [.release key s' healthy]) =
      if s' = s then some (key, healthy) else lastRelease s steps := by
  by_cases h : s' = s <;> simp [lastRelease, h]

theorem filed_empty (lifo : Bool) : Filed ({ lifo } : SocketPool σ) [] where
  nodup _ := List.nodup_nil
  unique h := by simp at h
  released h := by simp at h

/-- A take keeps the pool filed: it only removes a socket. -/
theorem Filed.take {p : SocketPool σ} {steps : List (Step σ)} (hf : Filed p steps)
    (key : PoolKey) : Filed (p.step (.take key)) (steps ++ [.take key]) := by
  have hsub := idle_step_take_sublist p key
  exact ⟨fun k => (hsub k).nodup (hf.nodup k),
    fun h h' => hf.unique ((hsub _).subset h) ((hsub _).subset h'),
    fun h => by rw [lastRelease_take]; exact hf.released ((hsub _).subset h)⟩

/-- Giving back a socket the pool does not hold keeps it filed. -/
theorem Filed.release {p : SocketPool σ} {steps : List (Step σ)} (hf : Filed p steps)
    {key : PoolKey} {s : σ} (hs : ∀ k, s ∉ p.idle k) (healthy : Bool) :
    Filed (p.release key s healthy) (steps ++ [.release key s healthy]) := by
  have hold : ∀ {k t}, t ∈ p.idle k → lastRelease t (steps ++ [.release key s healthy]) =
      some (k, true) := fun {k t} ht => by
    have hne : s ≠ t := fun he => hs k (he ▸ ht)
    rw [lastRelease_release, if_neg hne]
    exact hf.released ht
  refine ⟨fun k => ?_, fun h h' => ?_, fun h => ?_⟩
  · -- the socket joins the end of its key's queue, where it was not
    rw [idle_release]
    split
    · exact List.nodup_append.2 ⟨hf.nodup k, List.nodup_singleton s,
        fun a ha b hb => by simp at hb; subst hb; exact fun he => hs k (he ▸ ha)⟩
    · exact hf.nodup k
  · rcases mem_idle_release.1 h with h | ⟨-, hk, ht⟩ <;>
      rcases mem_idle_release.1 h' with h' | ⟨-, hk', ht'⟩
    · exact hf.unique h h'
    · exact absurd (ht' ▸ h) (hs _)
    · exact absurd (ht ▸ h') (hs _)
    · rw [hk, hk']
  · rcases mem_idle_release.1 h with h | ⟨hh, rfl, rfl⟩
    · exact hold h
    · rw [lastRelease_release, if_pos rfl, hh]

/-- A socket taken off a filed pool is left in no queue: it was in one queue, once. -/
theorem Filed.not_mem_of_takeIdle {p p' : SocketPool σ} {steps : List (Step σ)}
    (hf : Filed p steps) {key : PoolKey} {s : σ} (h : p.takeIdle key = some (s, p')) :
    ∀ k, s ∉ p'.idle k := by
  intro k hk
  obtain ⟨hs, hsub⟩ := takeIdle_mem h
  have hkey : k = key := hf.unique ((hsub k).1.subset hk) hs
  subst hkey
  have hnd := ((hsub k).2 rfl).nodup_iff.2 (hf.nodup k)
  exact (List.nodup_cons.1 hnd).1 hk

/-- Along every run in which callers give back only sockets they hold, the pool stays filed. -/
theorem Filed.run {p : SocketPool σ} {hist : List (Step σ)} (hf : Filed p hist)
    {steps : List (Step σ)} (howned : Owned p steps) : Filed (p.run steps) (hist ++ steps) := by
  induction steps generalizing p hist with
  | nil => simpa using hf
  | cons x steps ih =>
    cases x with
    | take key => simpa using ih (hf.take key) howned
    | release key s healthy => simpa using ih (hf.release howned.1 healthy) howned.2

/-- A socket taken off a key's queue was last given back, healthy, under that key. -/
theorem lastRelease_of_takeIdle (lifo : Bool) {steps : List (Step σ)}
    (howned : Owned ({ lifo } : SocketPool σ) steps) {key : PoolKey} {s : σ} {p' : SocketPool σ}
    (h : (({ lifo } : SocketPool σ).run steps).takeIdle key = some (s, p')) :
    lastRelease s steps = some (key, true) := by
  have hf := (filed_empty lifo).run howned
  simpa using hf.released (takeIdle_mem h).1

/-- No socket is taken off the pool twice without being given back, healthy, in between. -/
theorem released_between_takes (lifo : Bool) {pre mid : List (Step σ)} {key key' : PoolKey}
    (howned : Owned ({ lifo } : SocketPool σ) (pre ++ .take key :: mid)) {s : σ}
    {p₁ p₂ : SocketPool σ}
    (h₁ : (({ lifo } : SocketPool σ).run pre).takeIdle key = some (s, p₁))
    (h₂ : (({ lifo } : SocketPool σ).run (pre ++ .take key :: mid)).takeIdle key' = some (s, p₂)) :
    ∃ k, Step.release k s true ∈ mid := by
  obtain ⟨hpre, htake⟩ := owned_append.1 howned
  have hgone := ((filed_empty lifo).run hpre).not_mem_of_takeIdle h₁
  have hstep : ({ lifo } : SocketPool σ).run (pre ++ [.take key]) = p₁ := by
    rw [run_append, run_cons, step_take_of_takeIdle h₁, run_nil]
  by_contra hno
  have hout := not_mem_run hgone fun k hk => hno ⟨k, hk⟩
  rw [show pre ++ .take key :: mid = (pre ++ [.take key]) ++ mid by simp, run_append, hstep] at h₂
  exact hout key' (takeIdle_mem h₂).1

end Filed

/-! ## The laws of acquire and release -/

/-- Acquiring takes the idle sockets of its key in take order, closing the stale ones and handing
    out the first reusable one; it opens a new socket only when none of them was reusable, and it
    is the run of its takes. Along every interleaving of atomic steps in which callers give back
    only sockets they hold, (a) a socket taken off a key's queue was last given back, healthy,
    under that key, and (b) no socket is taken twice without being given back healthy in
    between. A key's idle sockets leave it only as closed or handed out; (c) other keys are left
    alone; (d) an unhealthy socket changes nothing; (e) the count drops by the sockets closed and
    handed out. -/
theorem acquire_release_laws {σ : Type} [DecidableEq σ] :
    (∀ (p : SocketPool σ) (key : PoolKey) (reusable : σ → Bool),
      p.acquire key reusable =
        ({ closed := (p.takeOrder key).takeWhile (fun s => !reusable s),
           reused := ((p.takeOrder key).dropWhile (fun s => !reusable s)).head? },
          p.setIdle key
            (queueOf p.lifo ((p.takeOrder key).dropWhile (fun s => !reusable s)).tail)) ∧
      ((p.acquire key reusable).1.reused = none →
        (p.acquire key reusable).2.idle key = [] ∧ ∀ s ∈ p.idle key, reusable s = false) ∧
      (p.acquire key reusable).2 = p.run (List.replicate
        ((p.acquire key reusable).1.closed.length +
          (p.acquire key reusable).1.reused.toList.length) (.take key))) ∧
    (∀ (lifo : Bool) (steps : List (Step σ)) (key : PoolKey) (s : σ) (p' : SocketPool σ),
      Owned ({ lifo } : SocketPool σ) steps →
      (({ lifo } : SocketPool σ).run steps).takeIdle key = some (s, p') →
      lastRelease s steps = some (key, true)) ∧
    (∀ (lifo : Bool) (pre mid : List (Step σ)) (key key' : PoolKey) (s : σ)
        (p₁ p₂ : SocketPool σ),
      Owned ({ lifo } : SocketPool σ) (pre ++ .take key :: mid) →
      (({ lifo } : SocketPool σ).run pre).takeIdle key = some (s, p₁) →
      (({ lifo } : SocketPool σ).run (pre ++ .take key :: mid)).takeIdle key' = some (s, p₂) →
      ∃ k, Step.release k s true ∈ mid) ∧
    (∀ (p : SocketPool σ) (key : PoolKey) (reusable : σ → Bool),
      (p.idle key).Perm ((p.acquire key reusable).1.closed ++
        (p.acquire key reusable).1.reused.toList ++ (p.acquire key reusable).2.idle key)) ∧
    (∀ (p : SocketPool σ) (key k : PoolKey), k ≠ key →
      (∀ reusable, (p.acquire key reusable).2.idle k = p.idle k) ∧
      ∀ s healthy, (p.release key s healthy).idle k = p.idle k) ∧
    (∀ (p : SocketPool σ) (key : PoolKey) (s : σ), p.release key s false = p) ∧
    (∀ (p : SocketPool σ) (key : PoolKey) (reusable : σ → Bool),
      p.idleCount key = (p.acquire key reusable).2.idleCount key +
        (p.acquire key reusable).1.closed.length +
        (p.acquire key reusable).1.reused.toList.length) :=
  ⟨fun p key reusable => ⟨acquire_eq p key reusable,
      acquire_opens_when_exhausted p key reusable, acquire_run p key reusable⟩,
    fun lifo _ _ _ _ howned h => lastRelease_of_takeIdle lifo howned h,
    fun lifo _ _ _ _ _ _ _ howned h₁ h₂ => released_between_takes lifo howned h₁ h₂,
    idle_perm_acquire,
    fun p _ _ hk => ⟨acquire_idle_of_ne p hk, release_idle_of_ne p hk⟩,
    release_unhealthy,
    idleCount_acquire⟩

/-- A socket given back healthy to an empty pool is taken off under the key it was given back
    under. -/
theorem acquire_release_laws_single :
    lastRelease 7 [Step.release ⟨"h", 80, false, 0⟩ 7 true] = some (⟨"h", 80, false, 0⟩, true) :=
  acquire_release_laws.2.1 true [Step.release ⟨"h", 80, false, 0⟩ 7 true] ⟨"h", 80, false, 0⟩ 7
    (({ lifo := true } : SocketPool Nat).setIdle ⟨"h", 80, false, 0⟩ [])
    (by simp [Owned])
    (by simp [takeIdle, SocketPool.release, setIdle_setIdle])

end TlcpLoad.SocketPool
