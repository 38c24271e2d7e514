import Mathlib
import TlcpLoad.Stats

/-! # The slowest delays

For each stage the statistics keep the slowest delay notified since the last reset, in whole
milliseconds cut to 64 bits. A delay counts only if more than `warmUpBinds` binds are done when
it is notified: one notified earlier is dropped, and the end of the warm-up does not bring it
back.

`Stats.Call` names the calls a client context makes on its statistics and `Stats.replay` makes
a history of them. `Stats.recordedDelays` reads off a history alone the delays of a stage that
count: the notifications of the stage that no reset follows, made while the counter of done
binds stood above the warm-up. `maxDelay_replay` says the slowest delay is the largest of them,
or zero when there is none. Between resets it only grows, and notifications give the same
statistics in every order, as concurrent ones must. -/

namespace TlcpLoad

namespace Stats

/-- One call on the statistics: an addition to a counter, a delay of a stage, or a reset. -/
inductive Call where
  | add (c : Counter) (n : UInt64)
  | notify (stage : Stage) (micros : Nat)
  | reset
  deriving DecidableEq, Repr

/-- Makes one call. -/
def Call.apply (s : Stats) : Call → Stats
  | .add c n => s.add c n
  | .notify stage micros => s.notify stage micros
  | .reset => s.reset

/-- Makes the calls of a history in order. -/
def replay (s : Stats) (calls : List Call) : Stats :=
  calls.foldl Call.apply s

/-- The delay the call at position `k` of a history contributes to `stage`, if it counts: a
    notification of the stage with no reset after it, made while more than `warmUpBinds` binds
    were done. -/
def recordedAt (stage : Stage) (calls : List Call) (k : Nat) : Option Nat :=
  match calls[k]? with
  | some (.notify st micros) =>
    if st = stage ∧ Call.reset ∉ calls.drop (k + 1) ∧
        warmUpBinds < (({} : Stats).replay (calls.take k)).bindDone.toNat then
      some (micros / 1000 % 2 ^ 64)
    else none
  | _ => none

/-- The delays of `stage` that a history counts, in the order they were notified. -/
def recordedDelays (stage : Stage) (calls : List Call) : List Nat :=
  (List.range calls.length).filterMap (recordedAt stage calls)

/-! ## One call -/

theorem replay_append_singleton (s : Stats) (calls : List Call) (c : Call) :
    s.replay (calls ++ [c]) = c.apply (s.replay calls) := by
  simp [replay, List.foldl_append]

@[simp] theorem maxDelay_add (s : Stats) (c : Counter) (n : UInt64) (stage : Stage) :
    (s.add c n).maxDelay stage = s.maxDelay stage := by
  cases c <;> cases stage <;> rfl

@[simp] theorem maxDelay_reset (s : Stats) (stage : Stage) : s.reset.maxDelay stage = 0 := by
  cases stage <;> rfl

/-- A notification of a stage raises that stage's slowest delay to the new one, once the
    warm-up is over, and leaves the other stages as they were. -/
theorem maxDelay_notify (s : Stats) (st stage : Stage) (micros : Nat) :
    (s.notify st micros).maxDelay stage =
      if st = stage ∧ warmUpBinds < s.bindDone.toNat then
        max (s.maxDelay stage) (micros / 1000).toUInt64
      else s.maxDelay stage := by
  unfold notify
  by_cases hw : warmUpBinds < s.bindDone.toNat
  · cases st <;> cases stage <;> simp [hw, maxDelay]
  · simp [hw]

/-- During the warm-up a notification changes nothing. -/
theorem notify_of_warmingUp {s : Stats} (h : s.bindDone.toNat ≤ warmUpBinds) (stage : Stage)
    (micros : Nat) : s.notify stage micros = s := by
  unfold notify
  rw [if_neg (Nat.not_lt.2 h)]

/-- Raising to two values gives the same in either order. -/
theorem max_max_comm (a b c : UInt64) : max (max a b) c = max (max a c) b :=
  UInt64.toNat_inj.1 (by simp only [UInt64.toNat_max]; omega)

/-- Two notifications give the same statistics in either order: each raises its stage's
    slowest delay to a maximum, and neither moves the counter the warm-up reads. -/
theorem notify_comm (s : Stats) (a b : Stage) (x y : Nat) :
    (s.notify a x).notify b y = (s.notify b y).notify a x := by
  by_cases hw : warmUpBinds < s.bindDone.toNat
  · cases a <;> cases b <;> simp [notify, hw, max_max_comm]
  · rw [notify_of_warmingUp (Nat.not_lt.1 hw), notify_of_warmingUp (Nat.not_lt.1 hw),
      notify_of_warmingUp (Nat.not_lt.1 hw)]

/-- No call but a reset lowers a slowest delay. -/
theorem maxDelay_le_apply (s : Stats) {c : Call} (hc : c ≠ .reset) (stage : Stage) :
    (s.maxDelay stage).toNat ≤ ((c.apply s).maxDelay stage).toNat := by
  cases c with
  | add c n => exact le_of_eq (congrArg UInt64.toNat (maxDelay_add s c n stage).symm)
  | notify st micros =>
    simp only [Call.apply, maxDelay_notify]
    split
    · rw [UInt64.toNat_max]
      exact le_max_left _ _
    · exact le_refl _
  | reset => exact absurd rfl hc

/-! ## Histories -/

/-- A call appended to a history keeps the earlier delays that count, unless it is a reset. -/
theorem recordedAt_append_of_lt (stage : Stage) {calls : List Call} (c : Call) {k : Nat}
    (hk : k < calls.length) :
    recordedAt stage (calls ++ [c]) k = if c = .reset then none else recordedAt stage calls k := by
  have hget : (calls ++ [c])[k]? = calls[k]? := List.getElem?_append_left hk
  have hdrop : (calls ++ [c]).drop (k + 1) = calls.drop (k + 1) ++ [c] :=
    List.drop_append_of_le_length hk
  have htake : (calls ++ [c]).take k = calls.take k := List.take_append_of_le_length hk.le
  unfold recordedAt
  rw [hget, hdrop, htake]
  by_cases hc : c = .reset
  · subst hc
    split <;> simp
  · rw [if_neg hc]
    split <;> simp [Ne.symm hc]

/-- The call appended last counts exactly when it is a notification of the stage made after
    the warm-up. -/
theorem recordedAt_append_last (stage : Stage) (calls : List Call) (c : Call) :
    recordedAt stage (calls ++ [c]) calls.length =
      match c with
      | .notify st micros =>
        if st = stage ∧ warmUpBinds < (({} : Stats).replay calls).bindDone.toNat then
          some (micros / 1000 % 2 ^ 64)
        else none
      | _ => none := by
  unfold recordedAt
  rw [List.getElem?_append_right (Nat.le_refl _), Nat.sub_self,
    List.take_append_of_le_length (Nat.le_refl _), List.take_length,
    List.drop_eq_nil_of_le (by simp)]
  cases c <;> simp

theorem recordedDelays_append_singleton (stage : Stage) (calls : List Call) (c : Call) :
    recordedDelays stage (calls ++ [c]) =
      (if c = .reset then [] else recordedDelays stage calls) ++
        (recordedAt stage (calls ++ [c]) calls.length).toList := by
  unfold recordedDelays
  rw [List.length_append, List.length_singleton, List.range_succ, List.filterMap_append,
    List.filterMap_cons, List.filterMap_nil]
  refine congrArg₂ (· ++ ·) ?_ ?_
  · by_cases hc : c = .reset
    · rw [if_pos hc, List.filterMap_eq_nil_iff]
      intro k hk
      rw [recordedAt_append_of_lt stage c (List.mem_range.1 hk), if_pos hc]
    · rw [if_neg hc]
      refine List.filterMap_congr fun k hk => ?_
      rw [recordedAt_append_of_lt stage c (List.mem_range.1 hk), if_neg hc]
  · cases recordedAt stage (calls ++ [c]) calls.length <;> rfl

/-- The slowest delay of a stage after a history is the largest delay of the stage that the
    history counts, or zero when it counts none. By induction on the history from its end:
    a reset empties both sides, and a counted notification raises both to the new delay. -/
theorem maxDelay_replay (calls : List Call) (stage : Stage) :
    ((({} : Stats).replay calls).maxDelay stage).toNat =
      (recordedDelays stage calls).foldl max 0 := by
  induction calls using List.reverseRecOn with
  | nil => cases stage <;> rfl
  | append_singleton calls c ih =>
    rw [replay_append_singleton, recordedDelays_append_singleton, recordedAt_append_last]
    cases c with
    | add c n => simpa [Call.apply] using ih
    | notify st micros =>
      simp only [Call.apply, maxDelay_notify, reduceCtorEq, if_false, List.foldl_append]
      split
      · rw [UInt64.toNat_max, ih, Nat.toUInt64, UInt64.toNat_ofNat']
        rfl
      · simpa using ih
    | reset => simp [Call.apply]

/-- Between resets a slowest delay only grows. -/
theorem maxDelay_le_replay (s : Stats) {more : List Call} (hmore : Call.reset ∉ more)
    (stage : Stage) : (s.maxDelay stage).toNat ≤ ((s.replay more).maxDelay stage).toNat := by
  induction more generalizing s with
  | nil => exact le_refl _
  | cons c more ih =>
    have hc : c ≠ .reset := fun h => hmore (h ▸ List.mem_cons_self)
    exact le_trans (maxDelay_le_apply s hc stage)
      (ih (c.apply s) fun h => hmore (List.mem_cons_of_mem c h))

/-- Notifications made in any order give the same statistics. -/
theorem replay_notify_perm {notes notes' : List (Stage × Nat)} (h : notes.Perm notes')
    (s : Stats) :
    s.replay (notes.map fun n => .notify n.1 n.2) =
      s.replay (notes'.map fun n => .notify n.1 n.2) :=
  (h.map _).foldl_eq' (fun x hx y hy z => by
    obtain ⟨a, -, rfl⟩ := List.mem_map.1 hx
    obtain ⟨b, -, rfl⟩ := List.mem_map.1 hy
    exact notify_comm z a.1 b.1 a.2 b.2) s

/-- What the statistics keep of the delays notified to them. After any history of additions,
    notifications and resets, the slowest delay of a stage is the largest of the delays in whole
    milliseconds, cut to 64 bits, of the stage's notifications since the last reset that were
    made while more than `warmUpBinds` binds were done, and zero if there was none. Between
    resets it never decreases; notifications give the same statistics in any order; and a
    notification made during the warm-up leaves the statistics as they were, so its delay is
    never recorded, not even once the warm-up is over. -/
theorem slowest_delay_since_reset (calls : List Call) (stage : Stage) :
    ((({} : Stats).replay calls).maxDelay stage).toNat =
        (recordedDelays stage calls).foldl max 0 ∧
    (∀ (s : Stats) (more : List Call), Call.reset ∉ more →
      (s.maxDelay stage).toNat ≤ ((s.replay more).maxDelay stage).toNat) ∧
    (∀ (notes notes' : List (Stage × Nat)), notes.Perm notes' → ∀ s : Stats,
      s.replay (notes.map fun n => .notify n.1 n.2) =
        s.replay (notes'.map fun n => .notify n.1 n.2)) ∧
    (∀ (s : Stats) (micros : Nat), s.bindDone.toNat ≤ warmUpBinds →
      s.notify stage micros = s) :=
  ⟨maxDelay_replay calls stage, fun s _ hmore => maxDelay_le_replay s hmore stage,
    fun _ _ h s => replay_notify_perm h s, fun _ micros h => notify_of_warmingUp h stage micros⟩

/-- The history of the library's own test: 900 ms during the warm-up, then 201 binds, then
    40 ms and 15 ms. -/
def warmUpTest : List Call :=
  [.notify .bind 900000, .add .bindDone 201, .notify .bind 40000, .notify .bind 15000]

/-- In that history only the two delays after the warm-up count; a notification there raises
    nothing below the slowest; two notifications commute; and the first one changes nothing. -/
theorem slowest_delay_in_test_history :
    ((({} : Stats).replay warmUpTest).maxDelay .bind).toNat =
        (recordedDelays .bind warmUpTest).foldl max 0 ∧
      recordedDelays .bind warmUpTest = [40, 15] ∧
    Call.reset ∉ [Call.notify .bind 15000] ∧
    ((({} : Stats).replay (warmUpTest.take 3)).maxDelay .bind).toNat ≤
      (((({} : Stats).replay (warmUpTest.take 3)).replay [.notify .bind 15000]).maxDelay
        .bind).toNat ∧
    [(Stage.bind, 40000), (Stage.sub, 7)].Perm [(Stage.sub, 7), (Stage.bind, 40000)] ∧
    ({} : Stats).replay ([(Stage.bind, 40000), (Stage.sub, 7)].map fun n => .notify n.1 n.2) =
      ({} : Stats).replay ([(Stage.sub, 7), (Stage.bind, 40000)].map fun n => .notify n.1 n.2) ∧
    ({} : Stats).bindDone.toNat ≤ warmUpBinds ∧
      ({} : Stats).notify .bind 900000 = {} :=
  have hrun := slowest_delay_since_reset warmUpTest .bind
  have hreset : Call.reset ∉ [Call.notify .bind 15000] := by decide
  have hperm : [(Stage.bind, 40000), (Stage.sub, 7)].Perm [(Stage.sub, 7), (Stage.bind, 40000)] :=
    List.Perm.swap _ _ _
  have hwarm : ({} : Stats).bindDone.toNat ≤ warmUpBinds := by decide
  ⟨hrun.1, by decide, hreset, hrun.2.1 _ _ hreset, hperm, hrun.2.2.1 _ _ hperm {}, hwarm,
    hrun.2.2.2 {} 900000 hwarm⟩

end Stats

end TlcpLoad
