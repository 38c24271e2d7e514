import Mathlib.Data.List.Nodup
import Mathlib.Data.List.Range
import TlcpLoad.Load.Items

/-! # Items at the same distance

With `A = last - first + 1` items available and a step of `A / per`, session `id` gets the
items `first + ((id - 1) % A + k · step) % A` for `k < per`: it starts at its offset and
walks the range in equal steps, wrapping around past `last`. This holds whenever no word
step leaves the 32-bit range, which is when `A` is a word and `last + step` is one too
(`itemsAtSameDistance_eq`). Every item then lies in `first … last`.

With `1 ≤ per ≤ A` the step is at least one and `per` steps fit in the range, so the items of
a session are all different; and the sessions start one after the other, so consecutive
sessions begin on consecutive items of the range (`items_spread_over_range`). -/

namespace TlcpLoad

namespace Word32

theorem add_of_le {a b : Nat} (h : a + b ≤ max) : add a b = .ok (a + b) := by
  simp [add, h]

theorem add_of_lt {a b : Nat} (h : max < a + b) : add a b = .error .addOverflow := by
  simp [add, Nat.not_le.2 h]

theorem sub_of_le {a b : Nat} (h : b ≤ a) : sub a b = .ok (a - b) := by
  simp [sub, h]

theorem rem_of_pos {a b : Nat} (h : 0 < b) : rem a b = .ok (a % b) := by
  simp [rem, Nat.pos_iff_ne_zero.1 h]

end Word32

/-- One step of the walk: from the item at position `r` of the range, the next is at position
    `(r + step) % A`; the sum never leaves the word range while `last + step` does not. -/
theorem itemsAfter_step {first A step r : Nat} (hA : 0 < A) (hr : r < A) (hstep : step ≤ A)
    (hover : first + A - 1 + step ≤ Word32.max) :
    ∃ next, Word32.add (first + r) step = .ok next ∧
      (if next > first + A - 1 then next - A else next) = first + (r + step) % A := by
  refine ⟨first + r + step, Word32.add_of_le (by omega), ?_⟩
  by_cases hwrap : r + step < A
  · rw [Nat.mod_eq_of_lt hwrap, if_neg (by omega)]
    omega
  · -- past `last`: one lap back, since `r + step < 2 · A`
    have hmod : (r + step) % A = r + step - A := by
      rw [Nat.mod_eq_sub_mod (by omega), Nat.mod_eq_of_lt (by omega)]
    rw [hmod, if_pos (by omega)]
    omega

/-- The walk after the item at position `r`: the next `count` items, the `k`-th at position
    `(r + (k + 1) · step) % A`. -/
theorem itemsAfter_eq {first A step : Nat} (hA : 0 < A) (hstep : step ≤ A)
    (hover : first + A - 1 + step ≤ Word32.max) (count : Nat) :
    ∀ r, r < A → itemsAfter (first + A - 1) step A (first + r) count =
      .ok ((List.range count).map fun k => first + (r + (k + 1) * step) % A) := by
  induction count with
  | zero => intro r _; rfl
  | succ count ih =>
    intro r hr
    obtain ⟨next, hadd, hnext⟩ := itemsAfter_step hA hr hstep hover
    have hrest := ih ((r + step) % A) (Nat.mod_lt _ hA)
    simp only [itemsAfter, hadd, hnext, hrest, Except.map, List.range_succ_eq_map,
      List.map_cons, List.map_map]
    -- positions from `(r + step) % A` are positions from `r` one step further
    congr 2
    · simp
    · refine List.map_congr_left fun k _ => ?_
      have hsucc : (k + 1 + 1) * step = (k + 1) * step + step := Nat.succ_mul _ _
      simp only [Function.comp, Nat.mod_add_mod, hsucc]
      congr 2
      omega

/-- Session `id` walks the range from its offset in steps of `A / per`; with `per = 0` it still
    gets its first item. -/
theorem itemsAtSameDistance_eq {id first last per : Nat} (hfl : first ≤ last)
    (hA : last - first + 1 ≤ Word32.max)
    (hover : last + (last - first + 1) / Nat.max per 1 ≤ Word32.max) :
    itemsAtSameDistance id first last per =
      .ok ((List.range (Nat.max per 1)).map fun k =>
        first + ((id - 1) % (last - first + 1) + k * ((last - first + 1) / Nat.max per 1)) %
          (last - first + 1)) := by
  have hApos : 0 < last - first + 1 := by omega
  have hoff := Nat.mod_lt (id - 1) hApos
  have hlast : last ≤ Word32.max :=
    Nat.le_trans (Nat.le_add_right _ _) hover
  have hper : Nat.max per 1 = per - 1 + 1 := by
    unfold Nat.max
    omega
  have hstart : Word32.add ((id - 1) % (last - first + 1)) first =
      .ok (first + (id - 1) % (last - first + 1)) := by
    rw [Word32.add_of_le (by omega), Nat.add_comm]
  have hrest := @itemsAfter_eq first _ _ hApos (Nat.div_le_self _ (Nat.max per 1))
    (by omega) (per - 1) _ hoff
  rw [show first + (last - first + 1) - 1 = last by omega] at hrest
  simp only [itemsAtSameDistance, bind, Except.bind, pure, Except.pure, Word32.sub_of_le hfl,
    Word32.add_of_le hA, Word32.rem_of_pos hApos, hstart, hrest]
  -- the first item is position 0 of the walk, the others its next `per - 1` positions
  rw [hper, List.range_succ_eq_map, List.map_cons,
    List.map_map]
  simp [Function.comp_def, Nat.mod_eq_of_lt hoff]

/-- Fewer than `A` steps of at least one from a position land on different positions of a
    range of `A`: two of them differ by a positive multiple of the step below `A`, which `A`
    cannot divide. -/
theorem mod_steps_injective {A step r k k' : Nat} (hstep : 0 < step) (hk : k * step < A)
    (hk' : k' * step < A) (h : (r + k * step) % A = (r + k' * step) % A) : k = k' := by
  have hfar : ∀ {j j' : Nat}, j < j' → j' * step < A →
      (r + j * step) % A ≠ (r + j' * step) % A := by
    intro j j' hj hj' he
    have hdvd : A ∣ (r + j' * step) - (r + j * step) :=
      Nat.dvd_of_mod_eq_zero (Nat.sub_mod_eq_zero_of_mod_eq he.symm)
    have hgap : j * step < j' * step := Nat.mul_lt_mul_of_pos_right hj hstep
    have hzero := Nat.eq_zero_of_dvd_of_lt hdvd (by omega)
    omega
  rcases Nat.lt_trichotomy k k' with hlt | heq | hgt
  · exact absurd h (hfar hlt hk')
  · exact heq
  · exact absurd h.symm (hfar hgt hk)

/-- With `per ≤ A`, the first `per` multiples of the step `A / per` stay below `A`. -/
theorem mul_div_lt_of_lt {A per k : Nat} (hle : per ≤ A) (hk : k < per) : k * (A / per) < A := by
  have hstep : 0 < A / per := Nat.div_pos hle (by omega)
  have hfit : (k + 1) * (A / per) ≤ per * (A / per) := Nat.mul_le_mul_right _ hk
  have hdiv : per * (A / per) ≤ A := Nat.mul_div_le A per
  rw [Nat.succ_mul] at hfit
  omega

/-- The `k`-th item of session `id` when `per` items per session are spread at equal distance
    over `first … last`: position `((id - 1) % A + k · (A / per)) % A` of the range of
    `A = last - first + 1` items, a session id of 0 counting as 1. -/
def spreadItem (first last per id k : Nat) : Nat :=
  first + ((max id 1 - 1) % (last - first + 1) + k * ((last - first + 1) / per)) %
    (last - first + 1)

/-- Session `id` gets `per` items, the `k`-th being `spreadItem first last per id k`. They all
    lie in `first … last` and are all different, and session `id + 1` starts on the item after
    the one session `id` starts on, wrapping around after `last`. -/
theorem items_spread_over_range {first last per : Nat} (hfl : first ≤ last)
    (hA : last - first + 1 < Nat.pow 2 32) (hper : 1 ≤ per) (hper' : per ≤ last - first + 1)
    (hover : last + (last - first + 1) / per ≤ Nat.pow 2 32 - 1) :
    ∀ id, (itemsAtSameDistance id first last per).map (·.map itemName) =
        .ok ((List.range per).map fun k => itemName (spreadItem first last per id k)) ∧
      (∀ k < per, first ≤ spreadItem first last per id k ∧ spreadItem first last per id k ≤ last) ∧
      ((List.range per).map (spreadItem first last per id)).Nodup ∧
      (1 ≤ id → spreadItem first last per (id + 1) 0 - first =
        (spreadItem first last per id 0 - first + 1) % (last - first + 1)) := by
  intro id
  have hApos : 0 < last - first + 1 := by omega
  have hmax : Nat.max per 1 = per := Nat.max_eq_left hper
  have hwalk := @itemsAtSameDistance_eq id first last per hfl (by unfold Word32.max; omega)
    (by rw [hmax]; unfold Word32.max; omega)
  have hn : ∀ s k, spreadItem first last per s k =
      first + ((s - 1) % (last - first + 1) + k * ((last - first + 1) / per)) %
        (last - first + 1) := by
    intro s k
    simp only [spreadItem, show max s 1 - 1 = s - 1 by omega]
  refine ⟨?_, fun k _ => ?_, ?_, fun hid => ?_⟩
  · rw [hwalk, hmax]
    simp [Except.map, hn]
  · -- every position is below `A`
    have hpos := Nat.mod_lt ((id - 1) % (last - first + 1) + k * ((last - first + 1) / per)) hApos
    rw [hn]
    omega
  · refine List.Nodup.map_on ?_ List.nodup_range
    intro k hk k' hk' he
    rw [List.mem_range] at hk hk'
    rw [hn, hn] at he
    exact mod_steps_injective (Nat.div_pos hper' hper) (mul_div_lt_of_lt hper' hk)
      (mul_div_lt_of_lt hper' hk') (Nat.add_left_cancel he)
  · -- session `id + 1` starts at offset `id % A`, one past session `id`'s
    rw [hn, hn]
    simp only [Nat.zero_mul, Nat.add_zero, Nat.mod_mod, Nat.add_sub_cancel_left,
      Nat.mod_add_mod, Nat.add_sub_cancel, Nat.sub_add_cancel hid]

/-- Three items `10 … 12`, three per session: session 5 gets `i11 i12 i10` and session 6, one
    further on, `i12 i10 i11`. -/
theorem items_spread_in_sample :
    (10 ≤ 12 ∧ 12 - 10 + 1 < Nat.pow 2 32 ∧ 1 ≤ 3 ∧ 3 ≤ 12 - 10 + 1 ∧
      12 + (12 - 10 + 1) / 3 ≤ Nat.pow 2 32 - 1) ∧
    (itemsAtSameDistance 5 10 12 3).map (·.map itemName) = .ok ["i11", "i12", "i10"] ∧
    (itemsAtSameDistance 6 10 12 3).map (·.map itemName) = .ok ["i12", "i10", "i11"] := by
  have hspread := @items_spread_over_range 10 12 3 (by decide) (by decide) (by decide)
    (by decide) (by decide)
  refine ⟨by decide, ?_, ?_⟩
  · rw [(hspread 5).1]
    decide
  · rw [(hspread 6).1]
    decide

end TlcpLoad
