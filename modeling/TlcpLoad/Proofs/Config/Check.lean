import TlcpLoad.Proofs.Load.Items
import TlcpLoad.Config.Check

/-! # What a checked configuration guarantees

`ClientConfig.Valid` says, of the values of a configuration, what `ClientConfig.check` tests;
`Valid.of_check` shows that a configuration that passes the check has it. From it follow the
bounds the load test relies on: the item range `first … last` starts at 1 or later, is not
empty and lies within `numberOfItems`; it holds `itemsPerSession` items unless items are drawn
at random; and the server ports `port … port + serverPorts − 1` end at 65535 or below.

What the check does not bound is the walk of a session over the items: `item + step` can
leave the 32-bit range when the range ends near 2^32 − 1, although every item the walk would
reach lies in the range (`itemsFor_overflows_near_last_word`). -/

namespace TlcpLoad

/-- A computation that succeeds succeeds at each step. -/
theorem Except.bind_eq_ok {ε α β : Type} {x : Except ε α} {f : α → Except ε β} {b : β}
    (h : (x >>= f) = .ok b) : ∃ a, x = .ok a ∧ f a = .ok b := by
  cases x with
  | error e => cases h
  | ok a => exact ⟨a, rfl, h⟩

namespace ClientConfig

theorem failIf_eq_ok {cond : Bool} {message : String} (h : failIf cond message = .ok ()) :
    cond = false := by
  cases cond
  · rfl
  · cases h

theorem failIf_bind_eq_ok {cond : Bool} {message : String} {β : Type}
    {f : Unit → Except ClientError β} {b : β} (h : (failIf cond message >>= f) = .ok b) :
    cond = false ∧ f () = .ok b := by
  obtain ⟨u, hu, hf⟩ := Except.bind_eq_ok h
  exact ⟨failIf_eq_ok hu, hf⟩

/-- What the check asks of a configuration, said of its values. -/
structure Valid (c : ClientConfig) : Prop where
  transport : ∃ t, c.transport = .ok t
  fields : 1 ≤ c.numberOfFields
  perSession : 1 ≤ c.itemsPerSession
  ports : c.port + (Nat.max c.serverPorts 1 - 1) ≤ maxPort
  ordered : ∀ first last, c.firstItemAvailable = some first → c.lastItemAvailable = some last →
    first ≤ last
  firstWithin : ∀ first, c.firstItemAvailable = some first → first ≤ c.numberOfItems
  lastWithin : ∀ last, c.lastItemAvailable = some last → last ≤ c.numberOfItems
  nonempty : c.itemRange.1 ≤ c.itemRange.2
  enough : c.itemRandomExtraction = false → c.itemsPerSession ≤ c.itemRange.2 - c.itemRange.1 + 1

/-- The last two tests: the range is not empty, and holds enough items for a session unless
    they are drawn at random. -/
theorem rangeTests_eq_ok {c : ClientConfig}
    (hne : decide (c.itemRange.2 < c.itemRange.1) = false)
    (henough : (!c.itemRandomExtraction &&
      decide (c.itemRange.2 - c.itemRange.1 + 1 < c.itemsPerSession)) = false) :
    c.itemRange.1 ≤ c.itemRange.2 ∧
      (c.itemRandomExtraction = false → c.itemsPerSession ≤ c.itemRange.2 - c.itemRange.1 + 1) := by
  refine ⟨by simpa using hne, fun hseq => ?_⟩
  simpa [hseq] using henough

theorem Valid.of_check {c : ClientConfig} (h : c.check = .ok ()) : c.Valid := by
  unfold check at h
  obtain ⟨t, ht, h⟩ := Except.bind_eq_ok h
  obtain ⟨hfields, h⟩ := failIf_bind_eq_ok h
  obtain ⟨hper, h⟩ := failIf_bind_eq_ok h
  obtain ⟨hports, h⟩ := failIf_bind_eq_ok h
  have hfields : 1 ≤ c.numberOfFields := by
    simpa [Nat.one_le_iff_ne_zero] using hfields
  have hper : 1 ≤ c.itemsPerSession := by
    simpa [Nat.one_le_iff_ne_zero] using hper
  have hports : c.port + (Nat.max c.serverPorts 1 - 1) ≤ maxPort := by
    simpa using hports
  dsimp only at h
  -- the ends of the range are tested only when they are set
  cases hf : c.firstItemAvailable with
  | none =>
    cases hl : c.lastItemAvailable with
    | none =>
      simp only [hf, hl] at h
      obtain ⟨hne, h⟩ := failIf_bind_eq_ok h
      obtain ⟨hrange, henough⟩ := rangeTests_eq_ok hne (failIf_eq_ok h)
      exact ⟨⟨t, ht⟩, hfields, hper, hports, by simp [hf], by simp [hf], by simp [hl], hrange,
        henough⟩
    | some last =>
      simp only [hf, hl] at h
      obtain ⟨hlast, h⟩ := failIf_bind_eq_ok h
      obtain ⟨hne, h⟩ := failIf_bind_eq_ok h
      obtain ⟨hrange, henough⟩ := rangeTests_eq_ok hne (failIf_eq_ok h)
      exact ⟨⟨t, ht⟩, hfields, hper, hports, by simp [hf], by simp [hf],
        by simpa [hl] using hlast, hrange, henough⟩
  | some first =>
    cases hl : c.lastItemAvailable with
    | none =>
      simp only [hf, hl] at h
      obtain ⟨hfirst, h⟩ := failIf_bind_eq_ok h
      obtain ⟨hne, h⟩ := failIf_bind_eq_ok h
      obtain ⟨hrange, henough⟩ := rangeTests_eq_ok hne (failIf_eq_ok h)
      exact ⟨⟨t, ht⟩, hfields, hper, hports, by simp [hl], by simpa [hf] using hfirst,
        by simp [hl], hrange, henough⟩
    | some last =>
      simp only [hf, hl] at h
      obtain ⟨hordered, h⟩ := failIf_bind_eq_ok h
      obtain ⟨hfirst, h⟩ := failIf_bind_eq_ok h
      obtain ⟨hlast, h⟩ := failIf_bind_eq_ok h
      obtain ⟨hne, h⟩ := failIf_bind_eq_ok h
      obtain ⟨hrange, henough⟩ := rangeTests_eq_ok hne (failIf_eq_ok h)
      exact ⟨⟨t, ht⟩, hfields, hper, hports, by simpa [hf, hl] using hordered,
        by simpa [hf] using hfirst, by simpa [hl] using hlast, hrange, henough⟩

/-- A configuration read from a text passed every stage: the text is JSON, the object fits
    the schema, its values fit their fields, and they pass the check. -/
theorem ofJsonText_eq_ok {text : String} {c : ClientConfig} (h : ofJsonText text = .ok c) :
    ∃ raw, Json.parse text = .ok raw ∧ validateRaw raw = .ok () ∧ ClientConfig.ofJson raw = .ok c ∧
      c.check = .ok () := by
  unfold ofJsonText at h
  obtain ⟨raw, hparse, h⟩ := Except.bind_eq_ok h
  obtain ⟨u, hvalid, h⟩ := Except.bind_eq_ok h
  obtain ⟨c', hc, h⟩ := Except.bind_eq_ok h
  obtain ⟨u', hcheck, h⟩ := Except.bind_eq_ok h
  cases h
  refine ⟨raw, ?_, hvalid, hc, hcheck⟩
  cases hp : Json.parse text with
  | error e => rw [hp] at hparse; cases hparse
  | ok v => rw [hp] at hparse; cases hparse; rfl

/-- The item range starts at 1 or later; a valid configuration's range is not empty and ends
    at `numberOfItems` or before. -/
theorem Valid.itemRange_within {c : ClientConfig} (hv : c.Valid) :
    1 ≤ c.itemRange.1 ∧ c.itemRange.1 ≤ c.itemRange.2 ∧ c.itemRange.2 ≤ c.numberOfItems := by
  refine ⟨?_, hv.nonempty, ?_⟩
  · -- an unset or zero first item means 1
    cases hf : c.firstItemAvailable with
    | none => simp [itemRange, hf]
    | some n =>
      by_cases hn : n > 0
      · simp only [itemRange, hf, if_pos hn]
        omega
      · simp [itemRange, hf, hn]
  · -- an unset or zero last item means `numberOfItems`
    cases hl : c.lastItemAvailable with
    | none => simp [itemRange, hl]
    | some n => by_cases hn : n > 0 <;> simp [itemRange, hl, hn, hv.lastWithin n hl]

/-- A configuration that passes the check, with items spread over the range (not drawn at
    random): the range `first … last` starts at 1 or later, is not empty, ends within
    `numberOfItems` and holds a session's items; the server ports end at 65535 or below. Each
    session's items are computed without leaving the 32-bit words, and lie in the range,
    provided `last` plus the step between a session's items is still a word: the check does
    not test this. -/
theorem checked_config_bounds {c : ClientConfig} (hcheck : c.check = .ok ())
    (hseq : c.itemRandomExtraction = false) :
    1 ≤ c.itemRange.1 ∧ c.itemRange.1 ≤ c.itemRange.2 ∧ c.itemRange.2 ≤ c.numberOfItems ∧
    1 ≤ c.itemsPerSession ∧ c.itemsPerSession ≤ c.itemRange.2 - c.itemRange.1 + 1 ∧
    c.port + Nat.max c.serverPorts 1 - 1 ≤ 65535 ∧
    (c.itemRange.2 + (c.itemRange.2 - c.itemRange.1 + 1) / c.itemsPerSession ≤ Word32.max →
      ∀ id, ∃ items : List Nat, c.itemsFor id = .ok (items.map itemName) ∧
        items.length = c.itemsPerSession ∧ ∀ n ∈ items, c.itemRange.1 ≤ n ∧ n ≤ c.itemRange.2) := by
  have hv := Valid.of_check hcheck
  obtain ⟨hfirst, hne, hlast⟩ := hv.itemRange_within
  have hports : c.port + Nat.max c.serverPorts 1 - 1 ≤ 65535 := by
    have := hv.ports
    unfold Nat.max at this ⊢
    unfold maxPort at this
    omega
  refine ⟨hfirst, hne, hlast, hv.perSession, hv.enough hseq, hports, fun hover id => ?_⟩
  have hper : Nat.max c.itemsPerSession 1 = c.itemsPerSession := by
    have := hv.perSession
    unfold Nat.max
    omega
  -- the walk of `itemsAtSameDistance_eq`, over the item range
  generalize hr : c.itemRange = range at hfirst hne hlast hover
  obtain ⟨first, last⟩ := range
  dsimp only at hfirst hne hlast hover ⊢
  have hword : last ≤ Word32.max := Nat.le_trans (Nat.le_add_right _ _) hover
  have hwalk := @itemsAtSameDistance_eq id first last c.itemsPerSession hne (by omega)
    (by rw [hper]; exact hover)
  rw [hper] at hwalk
  refine ⟨(List.range c.itemsPerSession).map fun k => first + ((id - 1) % (last - first + 1) +
      k * ((last - first + 1) / c.itemsPerSession)) % (last - first + 1), ?_, by simp,
    fun n hn => ?_⟩
  · simp only [itemsFor, hr, hwalk, Except.map]
  -- each item is `first` plus a remainder modulo the size of the range
  obtain ⟨k, -, rfl⟩ := List.mem_map.1 hn
  have := Nat.mod_lt ((id - 1) % (last - first + 1) + k * ((last - first + 1) / c.itemsPerSession))
    (show 0 < last - first + 1 by omega)
  omega

/-- The sample configuration of the load test: 500 items, five for each of 100 sessions, over
    three ports from 8080. -/
theorem checked_sample_bounds :
    let c : ClientConfig :=
      { protocol := "ws://", host := "localhost", port := 8080, adapterSetName := "LOAD_TEST",
        numberOfSessions := 100, itemsPerSession := 5, minCreatePool := 2, serverPorts := 3,
        numberOfItems := 500, numberOfFields := 10, subscriptionMode := "MERGE" }
    c.check = .ok () ∧ c.itemRandomExtraction = false ∧
    (1 ≤ c.itemRange.1 ∧ c.itemRange.1 ≤ c.itemRange.2 ∧ c.itemRange.2 ≤ c.numberOfItems ∧
      1 ≤ c.itemsPerSession ∧ c.itemsPerSession ≤ c.itemRange.2 - c.itemRange.1 + 1 ∧
      c.port + Nat.max c.serverPorts 1 - 1 ≤ 65535 ∧
      (c.itemRange.2 + (c.itemRange.2 - c.itemRange.1 + 1) / c.itemsPerSession ≤ Word32.max →
        ∀ id, ∃ items : List Nat, c.itemsFor id = .ok (items.map itemName) ∧
          items.length = c.itemsPerSession ∧ ∀ n ∈ items, c.itemRange.1 ≤ n ∧ n ≤ c.itemRange.2)) := by
  intro c
  have hcheck : c.check = .ok () := by cbv
  exact ⟨hcheck, rfl, checked_config_bounds hcheck rfl⟩

/-- The check accepts a range that ends at the last word, and a session's walk over it then
    leaves the word range: from item 2^32 − 3, the next is three further. -/
theorem itemsFor_overflows_near_last_word :
    let c : ClientConfig :=
      { protocol := "ws://", host := "localhost", port := 8080, adapterSetName := "LOAD_TEST",
        numberOfSessions := 4, itemsPerSession := 2, minCreatePool := 1, serverPorts := 1,
        numberOfItems := 4294967295, firstItemAvailable := some 4294967290, numberOfFields := 1,
        subscriptionMode := "MERGE" }
    c.check = .ok () ∧ c.itemRandomExtraction = false ∧ 4 ≤ c.numberOfSessions ∧
      c.itemsFor 4 = .error .addOverflow := by
  intro c
  refine ⟨by cbv, rfl, Nat.le_refl 4, ?_⟩
  -- session 4 starts at 2^32 − 3, one step of three below the end of the range
  simp only [c, itemsFor, itemRange]
  rfl

end ClientConfig

end TlcpLoad
