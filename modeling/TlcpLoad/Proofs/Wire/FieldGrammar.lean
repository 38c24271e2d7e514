import Mathlib
import TlcpLoad.Proofs.Wire.FieldCodec

/-! # Which payloads the field decoder accepts

`decodeFields` reads an update payload slot by slot, and this module says what it gives for every
payload. A slot is read by its shape (`SlotReads`): the empty slot, `#` and `$` stand for one value
each, `^` and a decimal count up to 65536 for that many unchanged fields, and any other slot for
the text it escapes. Escaped text has a small grammar (`Escaped`): bytes other than `%` stand for
themselves, and `%` with two hexadecimal digits of either case for the byte of their value; the
bytes so written must be the UTF-8 of the text.

A payload is read when all its slots are, and its values are theirs in order. Otherwise the
failure is that of the leftmost slot that stands for nothing, and within a text slot the faults
come in a fixed order (`SlotFault`): the first `%` that starts no escape is reported, as a
truncated escape or at the first of its two bytes that is no hexadecimal digit, and only a slot
whose escapes are all well formed can fail for its UTF-8 (`decodeFields_accepts_slot_grammar`).

A `%` is never a digit of an escape, so the first `%` that starts no escape can be found by
position alone, whatever escapes come before it (`FirstBadEscape`); the proofs read escaped text
in the three shapes of `escape_induction`. -/

namespace TlcpLoad

theorem Except.map_eq_ok_iff {ε α β : Type} {f : α → β} {x : Except ε α} {y : β} :
    x.map f = .ok y ↔ ∃ a, x = .ok a ∧ f a = y := by
  cases x <;> simp [Except.map]

theorem Except.map_eq_error_iff {ε α β : Type} {f : α → β} {x : Except ε α} {e : ε} :
    x.map f = .error e ↔ x = .error e := by
  cases x <;> simp [Except.map]

namespace FieldCodec

/-! ## Hexadecimal digits -/

/-- `b` is the code of the hexadecimal digit of value `v`, in lowercase or in uppercase. -/
def IsHexDigitOf (b : UInt8) (v : Nat) : Prop :=
  v < 16 ∧ (b.toNat = (Nat.digitChar v).toNat ∨ b.toNat = (Nat.digitChar v).toUpper.toNat)

/-- `b` is a hexadecimal digit of either case. -/
def IsHexDigit (b : UInt8) : Prop :=
  ∃ v, IsHexDigitOf b v

instance (b : UInt8) (v : Nat) : Decidable (IsHexDigitOf b v) :=
  inferInstanceAs (Decidable (_ ∧ _))

instance (b : UInt8) : Decidable (IsHexDigit b) :=
  decidable_of_iff (∃ v < 16, IsHexDigitOf b v)
    ⟨fun ⟨v, _, hv⟩ => ⟨v, hv⟩, fun ⟨v, hv⟩ => ⟨v, hv.1, hv⟩⟩

/-- `hexDigit` reads the hexadecimal digits of either case, each as its value. -/
theorem hexDigit_eq_ok_iff (pos : Nat) {b : UInt8} {v : Nat} :
    hexDigit pos b = .ok v ↔ IsHexDigitOf b v := by
  have hb : b.toNat < 256 := UInt8.toNat_lt_size b
  unfold hexDigit IsHexDigitOf
  simp only [UInt8.le_iff_toNat_le, UInt8.toNat_ofNat]
  generalize b.toNat = n at *
  constructor
  · -- within each range of digits, the digit of the value read is the byte itself
    intro h
    split_ifs at h with h₁ h₂ h₃ <;> cases h
    · obtain ⟨h₁, h₁'⟩ := h₁
      interval_cases n <;> decide
    · obtain ⟨h₂, h₂'⟩ := h₂
      interval_cases n <;> decide
    · obtain ⟨h₃, h₃'⟩ := h₃
      interval_cases n <;> decide
  · rintro ⟨hv, hn⟩
    rcases hn with rfl | rfl <;> interval_cases v <;> rfl

theorem IsHexDigitOf.unique {b : UInt8} {v v' : Nat} (h : IsHexDigitOf b v)
    (h' : IsHexDigitOf b v') : v = v' := by
  have hv := (hexDigit_eq_ok_iff 0).2 h
  rw [(hexDigit_eq_ok_iff 0).2 h'] at hv
  cases hv
  rfl

/-- `%` is no hexadecimal digit. -/
theorem IsHexDigit.ne_percent {b : UInt8} (h : IsHexDigit b) : b ≠ 0x25 := by
  rintro rfl
  obtain ⟨v, hv⟩ := h
  have := (hexDigit_eq_ok_iff 0).2 hv
  simp [hexDigit] at this

/-- Any other byte is named, with its position. -/
theorem hexDigit_eq_error_iff {pos : Nat} {b : UInt8} {e : DecodeError} :
    hexDigit pos b = .error e ↔ ¬IsHexDigit b ∧ e = .invalidHex pos (Char.ofNat b.toNat) := by
  have hname : ∀ {e}, hexDigit pos b = .error e → e = .invalidHex pos (Char.ofNat b.toNat) := by
    intro e h
    unfold hexDigit at h
    split_ifs at h
    cases h
    rfl
  constructor
  · intro h
    refine ⟨fun ⟨v, hv⟩ => ?_, hname h⟩
    rw [(hexDigit_eq_ok_iff pos).2 hv] at h
    cases h
  · rintro ⟨hb, rfl⟩
    cases h : hexDigit pos b with
    | ok v => exact absurd ⟨v, (hexDigit_eq_ok_iff pos).1 h⟩ hb
    | error e => rw [hname h]

/-! ## Escaped text -/

/-- The `%` at `i` of `b` starts an escape: two hexadecimal digits follow it. -/
def StartsEscape (b : List UInt8) (i : Nat) : Prop :=
  ∃ h l, b[i + 1]? = some h ∧ b[i + 2]? = some l ∧ IsHexDigit h ∧ IsHexDigit l

/-- The `%` at `i` is the first of `b` that starts no escape. -/
def FirstBadEscape (b : List UInt8) (i : Nat) : Prop :=
  b[i]? = some 0x25 ∧ ¬StartsEscape b i ∧ ∀ j < i, b[j]? = some 0x25 → StartsEscape b j

/-- The failure named for the `%` at `i` of `b` that starts no escape, with positions counted
    from `pos`: a truncated escape when fewer than two bytes follow it, else the first of the two
    that is no hexadecimal digit. -/
def escapeFault (pos : Nat) (b : List UInt8) (i : Nat) : DecodeError :=
  match b[i + 1]?, b[i + 2]? with
  | some h, some l =>
    if IsHexDigit h then .invalidHex (pos + i + 2) (Char.ofNat l.toNat)
    else .invalidHex (pos + i + 1) (Char.ofNat h.toNat)
  | _, _ => .truncatedEscape (pos + i)

/-- The text `b` escapes the bytes `out`: bytes other than `%` stand for themselves, and `%` with
    two hexadecimal digits for the byte of their value. -/
inductive Escaped : List UInt8 → List UInt8 → Prop where
  | nil : Escaped [] []
  | plain {b : UInt8} {rest out : List UInt8} :
      b ≠ 0x25 → Escaped rest out → Escaped (b :: rest) (b :: out)
  | escape {h l : UInt8} {hv lv : Nat} {rest out : List UInt8} :
      IsHexDigitOf h hv → IsHexDigitOf l lv → Escaped rest out →
      Escaped (0x25 :: h :: l :: rest) ((hv * 16 + lv).toUInt8 :: out)

@[simp] theorem startsEscape_cons_succ (x : UInt8) (b : List UInt8) (i : Nat) :
    StartsEscape (x :: b) (i + 1) ↔ StartsEscape b i := by
  simp [StartsEscape]

@[simp] theorem startsEscape_percent_zero (rest : List UInt8) :
    StartsEscape (0x25 :: rest) 0 ↔
      ∃ h l more, rest = h :: l :: more ∧ IsHexDigit h ∧ IsHexDigit l := by
  constructor
  · rintro ⟨h, l, e₁, e₂, hh, hl⟩
    match rest, e₁, e₂ with
    | h :: l :: more, rfl, rfl => exact ⟨h, l, more, rfl, hh, hl⟩
  · rintro ⟨h, l, more, rfl, hh, hl⟩
    exact ⟨h, l, rfl, rfl, hh, hl⟩

theorem escapeFault_cons_succ (pos : Nat) (x : UInt8) (b : List UInt8) (i : Nat) :
    escapeFault pos (x :: b) (i + 1) = escapeFault (pos + 1) b i := by
  simp only [escapeFault, List.getElem?_cons_succ]
  rw [show pos + (i + 1) = pos + 1 + i by omega]

/-- Past a first byte, the first `%` that starts no escape is the rest's, provided the first
    byte is no such `%`. -/
theorem firstBadEscape_cons_succ {x : UInt8} {b : List UInt8} {i : Nat} :
    FirstBadEscape (x :: b) (i + 1) ↔
      (x = 0x25 → StartsEscape (x :: b) 0) ∧ FirstBadEscape b i := by
  simp only [FirstBadEscape, List.getElem?_cons_succ, startsEscape_cons_succ]
  constructor
  · rintro ⟨hi, hs, hj⟩
    refine ⟨fun hx => hj 0 (by omega) (by simp [hx]), hi, hs, fun j hj' => ?_⟩
    simpa using hj (j + 1) (by omega)
  · rintro ⟨hx, hi, hs, hj⟩
    refine ⟨hi, hs, fun j hj' => ?_⟩
    cases j with
    | zero => simpa using hx
    | succ j => simpa using hj j (by omega)

theorem firstBadEscape_of_ne {x : UInt8} (hx : x ≠ 0x25) {b : List UInt8} {i : Nat} :
    FirstBadEscape (x :: b) i ↔ ∃ i', i = i' + 1 ∧ FirstBadEscape b i' := by
  cases i with
  | zero => simp [FirstBadEscape, hx]
  | succ i => simp [firstBadEscape_cons_succ, hx]

theorem firstBadEscape_of_escape {h l : UInt8} (hh : IsHexDigit h) (hl : IsHexDigit l)
    {more : List UInt8} {i : Nat} :
    FirstBadEscape (0x25 :: h :: l :: more) i ↔ ∃ i', i = i' + 3 ∧ FirstBadEscape more i' := by
  have hs : StartsEscape (0x25 :: h :: l :: more) 0 :=
    (startsEscape_percent_zero _).2 ⟨h, l, more, rfl, hh, hl⟩
  -- the digits of the escape are no `%`, so the first bad `%` lies past them
  match i with
  | 0 => simp [FirstBadEscape, hs]
  | 1 => simp [FirstBadEscape, hh.ne_percent]
  | 2 => simp [FirstBadEscape, hl.ne_percent]
  | i + 3 => simp [firstBadEscape_cons_succ, hs, hh.ne_percent, hl.ne_percent]

theorem firstBadEscape_of_not_startsEscape {rest : List UInt8}
    (hs : ¬StartsEscape (0x25 :: rest) 0) {i : Nat} :
    FirstBadEscape (0x25 :: rest) i ↔ i = 0 := by
  cases i with
  | zero => simp [FirstBadEscape, hs]
  | succ i => simp [firstBadEscape_cons_succ, hs]

/-- Escaped text is read from the left in three shapes: a byte other than `%`, a `%` that starts
    an escape, and a `%` that starts none, where the reading stops; `pos` counts the bytes read. -/
theorem escape_induction {motive : Nat → List UInt8 → Prop} (nil : ∀ pos, motive pos [])
    (plain : ∀ pos b rest, b ≠ 0x25 → motive (pos + 1) rest → motive pos (b :: rest))
    (escape : ∀ pos h l more, IsHexDigit h → IsHexDigit l → motive (pos + 3) more →
      motive pos (0x25 :: h :: l :: more))
    (bad : ∀ pos rest, ¬StartsEscape (0x25 :: rest) 0 → motive pos (0x25 :: rest))
    (pos : Nat) : (b : List UInt8) → motive pos b
  | [] => nil pos
  | b :: rest => by
    by_cases hb : b = 0x25
    · subst hb
      by_cases hs : StartsEscape (0x25 :: rest) 0
      · obtain ⟨h, l, more, rfl, hh, hl⟩ := (startsEscape_percent_zero rest).1 hs
        exact escape pos h l more hh hl (escape_induction nil plain escape bad (pos + 3) more)
      · exact bad pos rest hs
    · exact plain pos b rest hb (escape_induction nil plain escape bad (pos + 1) rest)
termination_by b => b.length

/-- A `%` that starts no escape stops the reading with its fault. -/
theorem unescape_bad {rest : List UInt8} (hs : ¬StartsEscape (0x25 :: rest) 0) (pos : Nat) :
    unescape pos (0x25 :: rest) = .error (escapeFault pos (0x25 :: rest) 0) := by
  match rest with
  | [] => rfl
  | [x] => rfl
  | h :: l :: more =>
    have hd : ¬(IsHexDigit h ∧ IsHexDigit l) := fun hd =>
      hs ((startsEscape_percent_zero _).2 ⟨h, l, more, rfl, hd⟩)
    rw [unescape.eq_2, if_pos rfl]
    by_cases hh : IsHexDigit h
    · obtain ⟨v, hv⟩ := hh
      rw [(hexDigit_eq_ok_iff _).2 hv,
        hexDigit_eq_error_iff.2 ⟨fun hl => hd ⟨⟨v, hv⟩, hl⟩, rfl⟩]
      simp [escapeFault, show IsHexDigit h from ⟨v, hv⟩]
    · rw [hexDigit_eq_error_iff.2 ⟨hh, rfl⟩]
      simp [escapeFault, hh]

/-- `unescape` reads exactly the escaped texts, each as the bytes it escapes. -/
theorem unescape_eq_ok_iff (pos : Nat) (b : List UInt8) {out : List UInt8} :
    unescape pos b = .ok out ↔ Escaped b out := by
  induction pos, b using escape_induction generalizing out with
  | nil pos =>
    constructor
    · rintro ⟨⟩
      exact .nil
    · rintro ⟨⟩
      rfl
  | plain pos b rest hb ih =>
    rw [unescape_of_ne hb, Except.map_eq_ok_iff]
    constructor
    · rintro ⟨out', hr, rfl⟩
      exact .plain hb (ih.1 hr)
    · intro h
      cases h with
      | plain _ hr => exact ⟨_, ih.2 hr, rfl⟩
      | escape => exact absurd rfl hb
  | escape pos h l more hh hl ih =>
    obtain ⟨hv, hhv⟩ := hh
    obtain ⟨lv, hlv⟩ := hl
    rw [unescape_escape ((hexDigit_eq_ok_iff _).2 hhv) ((hexDigit_eq_ok_iff _).2 hlv),
      Except.map_eq_ok_iff]
    constructor
    · rintro ⟨out', hr, rfl⟩
      exact .escape hhv hlv (ih.1 hr)
    · intro he
      cases he with
      | plain hb => exact absurd rfl hb
      | escape hh' hl' hr =>
        rw [hhv.unique hh', hlv.unique hl']
        exact ⟨_, ih.2 hr, rfl⟩
  | bad pos rest hs =>
    rw [unescape_bad hs]
    constructor
    · rintro ⟨⟩
    · intro he
      cases he with
      | plain hb => exact absurd rfl hb
      | escape hh hl _ =>
        exact absurd ((startsEscape_percent_zero _).2 ⟨_, _, _, rfl, ⟨_, hh⟩, ⟨_, hl⟩⟩) hs

/-- `unescape` fails exactly at the first `%` that starts no escape, with its fault. -/
theorem unescape_eq_error_iff (pos : Nat) (b : List UInt8) {e : DecodeError} :
    unescape pos b = .error e ↔ ∃ i, FirstBadEscape b i ∧ e = escapeFault pos b i := by
  induction pos, b using escape_induction generalizing e with
  | nil pos =>
    constructor
    · rintro ⟨⟩
    · rintro ⟨i, ⟨hi, -⟩, -⟩
      simp at hi
  | plain pos b rest hb ih =>
    rw [unescape_of_ne hb, Except.map_eq_error_iff, ih]
    simp only [firstBadEscape_of_ne hb]
    constructor
    · rintro ⟨i, hi, rfl⟩
      exact ⟨i + 1, ⟨i, rfl, hi⟩, (escapeFault_cons_succ ..).symm⟩
    · rintro ⟨_, ⟨i, rfl, hi⟩, rfl⟩
      exact ⟨i, hi, escapeFault_cons_succ ..⟩
  | escape pos h l more hh hl ih =>
    obtain ⟨hv, hhv⟩ := hh
    obtain ⟨lv, hlv⟩ := hl
    rw [unescape_escape ((hexDigit_eq_ok_iff _).2 hhv) ((hexDigit_eq_ok_iff _).2 hlv),
      Except.map_eq_error_iff, ih]
    simp only [firstBadEscape_of_escape ⟨hv, hhv⟩ ⟨lv, hlv⟩]
    have hshift : ∀ i, escapeFault pos (0x25 :: h :: l :: more) (i + 3) =
        escapeFault (pos + 3) more i := fun i => by
      rw [escapeFault_cons_succ, escapeFault_cons_succ, escapeFault_cons_succ]
    constructor
    · rintro ⟨i, hi, rfl⟩
      exact ⟨i + 3, ⟨i, rfl, hi⟩, (hshift i).symm⟩
    · rintro ⟨_, ⟨i, rfl, hi⟩, rfl⟩
      exact ⟨i, hi, hshift i⟩
  | bad pos rest hs =>
    rw [unescape_bad hs]
    simp only [firstBadEscape_of_not_startsEscape hs]
    constructor
    · rintro ⟨⟩
      exact ⟨0, rfl, rfl⟩
    · rintro ⟨_, rfl, rfl⟩
      rfl

theorem Escaped.unique {b out out' : List UInt8} (h : Escaped b out) (h' : Escaped b out') :
    out = out' := by
  have hr := (unescape_eq_ok_iff 0 b).2 h
  rw [(unescape_eq_ok_iff 0 b).2 h'] at hr
  cases hr
  rfl

theorem FirstBadEscape.unique {b : List UInt8} {i j : Nat} (hi : FirstBadEscape b i)
    (hj : FirstBadEscape b j) : i = j := by
  by_contra hne
  rcases Nat.lt_or_gt_of_ne hne with hlt | hlt
  · exact hi.2.1 (hj.2.2 i hlt hi.1)
  · exact hj.2.1 (hi.2.2 j hlt hj.1)

/-- Escaped text has no `%` that starts no escape. -/
theorem Escaped.not_firstBadEscape {b out : List UInt8} (h : Escaped b out) (i : Nat) :
    ¬FirstBadEscape b i := fun hi => by
  have hr := (unescape_eq_ok_iff 0 b).2 h
  rw [(unescape_eq_error_iff 0 b).2 ⟨i, hi, rfl⟩] at hr
  cases hr

/-! ## Texts -/

/-- `unquote` reads exactly the texts that escape the UTF-8 of a string. -/
theorem unquote_eq_ok_iff (b : List UInt8) (t : String) :
    unquote b = .ok t ↔ Escaped b (Utf8.ofString t) := by
  unfold unquote
  cases hr : unescape 0 b with
  | error e =>
    dsimp only
    simp only [reduceCtorEq, false_iff]
    intro he
    rw [(unescape_eq_ok_iff 0 b).2 he] at hr
    cases hr
  | ok out =>
    rw [unescape_eq_ok_iff] at hr
    dsimp only
    cases hs : Utf8.toString? out with
    | none =>
      dsimp only
      simp only [reduceCtorEq, false_iff]
      intro he
      rw [hr.unique he, Utf8.toString?_ofString] at hs
      cases hs
    | some s =>
      dsimp only
      rw [Utf8.toString?_eq_some_iff] at hs
      subst hs
      simp only [Except.ok.injEq]
      constructor
      · rintro rfl
        exact hr
      · intro he
        -- both strings have the bytes `b` escapes
        have hst := congrArg Utf8.toString? (hr.unique he)
        rw [Utf8.toString?_ofString, Utf8.toString?_ofString] at hst
        exact Option.some.inj hst

/-- `unquote` fails at the first `%` that starts no escape; a text whose escapes are all well
    formed fails only when the bytes it escapes are no UTF-8. -/
theorem unquote_eq_error_iff (b : List UInt8) (e : DecodeError) :
    unquote b = .error e ↔ (∃ i, FirstBadEscape b i ∧ e = escapeFault 0 b i) ∨
      (e = .invalidUtf8 ∧ ∃ out, Escaped b out ∧ ∀ t, out ≠ Utf8.ofString t) := by
  unfold unquote
  cases hr : unescape 0 b with
  | error e' =>
    obtain ⟨j, hj, rfl⟩ := (unescape_eq_error_iff 0 b).1 hr
    dsimp only
    simp only [Except.error.injEq]
    constructor
    · rintro rfl
      exact .inl ⟨j, hj, rfl⟩
    · rintro (⟨i, hi, rfl⟩ | ⟨-, out, he, -⟩)
      · rw [hj.unique hi]
      · exact absurd hj (he.not_firstBadEscape j)
  | ok out =>
    rw [unescape_eq_ok_iff] at hr
    dsimp only
    cases hs : Utf8.toString? out with
    | none =>
      dsimp only
      simp only [Except.error.injEq]
      constructor
      · rintro rfl
        refine .inr ⟨rfl, out, hr, fun t ht => ?_⟩
        rw [ht, Utf8.toString?_ofString] at hs
        cases hs
      · rintro (⟨i, hi, -⟩ | ⟨rfl, -⟩)
        · exact absurd hi (hr.not_firstBadEscape i)
        · rfl
    | some s =>
      dsimp only
      simp only [reduceCtorEq, false_iff]
      rintro (⟨i, hi, -⟩ | ⟨-, out', he, hno⟩)
      · exact hr.not_firstBadEscape i hi
      · exact hno s ((hr.unique he).symm.trans (Utf8.toString?_eq_some_iff.1 hs).symm)

/-! ## Slots -/

/-- A slot that holds a text: it is not empty, not `#` or `$`, and does not start with `^`. -/
def IsTextSlot (s : List UInt8) : Prop :=
  s ≠ [] ∧ s ≠ [0x23] ∧ s ≠ [0x24] ∧ s.head? ≠ some 0x5E

/-- The values one slot stands for. -/
inductive SlotReads : List UInt8 → List FieldValue → Prop where
  | unchanged : SlotReads [] [.unchanged]
  | null : SlotReads [0x23] [.null]
  | empty : SlotReads [0x24] [.text ""]
  | run {d : List UInt8} {n : Nat} : Numeral.NatNumeral d n → n ≤ 65536 →
      SlotReads (0x5E :: d) (List.replicate n .unchanged)
  | text {s : List UInt8} {t : String} : IsTextSlot s → Escaped s (Utf8.ofString t) →
      SlotReads s [.text t]

/-- Why a slot stands for no values: a count that is no numeral up to 65536, the first `%` of a
    text that starts no escape, or escaped bytes that are no UTF-8. -/
inductive SlotFault : List UInt8 → DecodeError → Prop where
  | run {d : List UInt8} : (∀ n, Numeral.NatNumeral d n → 65536 < n) →
      SlotFault (0x5E :: d) (.invalidNumber "unchanged run length" (Utf8.toStringLossy d))
  | escape {s : List UInt8} {i : Nat} : IsTextSlot s → FirstBadEscape s i →
      SlotFault s (escapeFault 0 s i)
  | utf8 {s out : List UInt8} : IsTextSlot s → Escaped s out → (∀ t, out ≠ Utf8.ofString t) →
      SlotFault s .invalidUtf8

theorem readU64?_filter_eq_some_iff {d : List UInt8} {n : Nat} :
    (Numeral.readU64? d).filter (· ≤ maxUnchangedRun) = some n ↔
      Numeral.NatNumeral d n ∧ n ≤ 65536 := by
  rw [Option.filter_eq_some_iff, Numeral.readU64?, Numeral.readNat?_eq_some_iff,
    decide_eq_true_eq, maxUnchangedRun]
  constructor
  · rintro ⟨⟨hn, -⟩, hle⟩
    exact ⟨hn, hle⟩
  · rintro ⟨hn, hle⟩
    exact ⟨⟨hn, lt_of_le_of_lt hle (by decide)⟩, hle⟩

/-- A count is read when it is a numeral of at most 65536. -/
theorem runLength_eq_ok_iff {d : List UInt8} {n : Nat} :
    runLength d = .ok n ↔ Numeral.NatNumeral d n ∧ n ≤ 65536 := by
  rw [← readU64?_filter_eq_some_iff]
  unfold runLength
  split
  · rename_i m hf
    rw [Except.ok.injEq, hf, Option.some.injEq]
  · rename_i hf
    rw [hf]
    simp

/-- Any other count fails, naming the text it holds. -/
theorem runLength_eq_error_iff {d : List UInt8} {e : DecodeError} :
    runLength d = .error e ↔ (∀ n, Numeral.NatNumeral d n → 65536 < n) ∧
      e = .invalidNumber "unchanged run length" (Utf8.toStringLossy d) := by
  unfold runLength
  split
  · rename_i n hf
    obtain ⟨hn, hle⟩ := readU64?_filter_eq_some_iff.1 hf
    simp only [reduceCtorEq, false_iff, not_and]
    intro hall
    exact absurd (hall n hn) (Nat.not_lt.2 hle)
  · rename_i hf
    have hall : ∀ n, Numeral.NatNumeral d n → 65536 < n := fun n hn => by
      by_contra hle
      have hread := readU64?_filter_eq_some_iff.2 ⟨hn, Nat.le_of_not_lt hle⟩
      rw [hf] at hread
      cases hread
    simp only [Except.error.injEq]
    constructor
    · rintro rfl
      exact ⟨hall, rfl⟩
    · rintro ⟨-, rfl⟩
      rfl

/-- A slot is a text or one of the markers. -/
theorem isTextSlot_or (s : List UInt8) :
    IsTextSlot s ∨ s = [] ∨ s = [0x23] ∨ s = [0x24] ∨ ∃ d, s = 0x5E :: d := by
  by_cases h : IsTextSlot s
  · exact .inl h
  · unfold IsTextSlot at h
    match s with
    | [] => exact .inr (.inl rfl)
    | x :: d =>
      by_cases hx : x = 0x5E
      · exact .inr (.inr (.inr (.inr ⟨d, by rw [hx]⟩)))
      · have : x :: d = [0x23] ∨ x :: d = [0x24] := by
          simp only [ne_eq, reduceCtorEq, not_false_eq_true, List.head?_cons, Option.some.injEq,
            hx, and_true, true_and, not_and_or, not_not] at h
          exact h
        rcases this with h | h <;> simp [h]

theorem decodeSlot_of_isTextSlot {s : List UInt8} (h : IsTextSlot s) :
    decodeSlot s = (unquote s).map fun t => [.text t] := by
  obtain ⟨h₁, h₂, h₃, h₄⟩ := h
  unfold decodeSlot
  split <;> simp_all

theorem decodeSlot_run (d : List UInt8) :
    decodeSlot (0x5E :: d) = (runLength d).map fun n => List.replicate n .unchanged := by
  unfold decodeSlot
  split <;> simp_all

/-- `decodeSlot` reads each slot as what it stands for. -/
theorem decodeSlot_eq_ok_iff (s : List UInt8) (vs : List FieldValue) :
    decodeSlot s = .ok vs ↔ SlotReads s vs := by
  constructor
  · intro h
    rcases isTextSlot_or s with ht | rfl | rfl | rfl | ⟨d, rfl⟩
    · rw [decodeSlot_of_isTextSlot ht, Except.map_eq_ok_iff] at h
      obtain ⟨t, hu, rfl⟩ := h
      exact .text ht ((unquote_eq_ok_iff s t).1 hu)
    · cases h
      exact .unchanged
    · cases h
      exact .null
    · cases h
      exact .empty
    · rw [decodeSlot_run, Except.map_eq_ok_iff] at h
      obtain ⟨n, hn, rfl⟩ := h
      obtain ⟨hnum, hle⟩ := runLength_eq_ok_iff.1 hn
      exact .run hnum hle
  · intro h
    cases h with
    | unchanged => rfl
    | null => rfl
    | empty => rfl
    | run hnum hle =>
      rw [decodeSlot_run, runLength_eq_ok_iff.2 ⟨hnum, hle⟩]
      rfl
    | text ht he =>
      rw [decodeSlot_of_isTextSlot ht, (unquote_eq_ok_iff _ _).2 he]
      rfl

/-- `decodeSlot` fails on each slot that stands for nothing, with its fault. -/
theorem decodeSlot_eq_error_iff (s : List UInt8) (e : DecodeError) :
    decodeSlot s = .error e ↔ SlotFault s e := by
  constructor
  · intro h
    rcases isTextSlot_or s with ht | rfl | rfl | rfl | ⟨d, rfl⟩
    · rw [decodeSlot_of_isTextSlot ht, Except.map_eq_error_iff, unquote_eq_error_iff] at h
      rcases h with ⟨i, hi, rfl⟩ | ⟨rfl, out, he, hno⟩
      · exact .escape ht hi
      · exact .utf8 ht he hno
    · cases h
    · cases h
    · cases h
    · rw [decodeSlot_run, Except.map_eq_error_iff, runLength_eq_error_iff] at h
      obtain ⟨hall, rfl⟩ := h
      exact .run hall
  · intro h
    cases h with
    | run hall =>
      rw [decodeSlot_run, Except.map_eq_error_iff, runLength_eq_error_iff]
      exact ⟨hall, rfl⟩
    | escape ht hi =>
      rw [decodeSlot_of_isTextSlot ht, Except.map_eq_error_iff, unquote_eq_error_iff]
      exact .inl ⟨_, hi, rfl⟩
    | utf8 ht he hno =>
      rw [decodeSlot_of_isTextSlot ht, Except.map_eq_error_iff, unquote_eq_error_iff]
      exact .inr ⟨rfl, _, he, hno⟩

/-! ## Payloads -/

theorem decodeSlots_cons_of_ok {slot : List UInt8} {v : List FieldValue}
    (h : decodeSlot slot = .ok v) (rest : List (List UInt8)) :
    decodeSlots (slot :: rest) = (decodeSlots rest).map (v ++ ·) := by
  rw [decodeSlots, h]
  cases decodeSlots rest <;> rfl

theorem decodeSlots_cons_of_error {slot : List UInt8} {e : DecodeError}
    (h : decodeSlot slot = .error e) (rest : List (List UInt8)) :
    decodeSlots (slot :: rest) = .error e := by
  rw [decodeSlots, h]

/-- The slots are read when each is, as the concatenation of their values. -/
theorem decodeSlots_eq_ok_iff (slots : List (List UInt8)) (vs : List FieldValue) :
    decodeSlots slots = .ok vs ↔ ∃ vss, List.Forall₂ SlotReads slots vss ∧ vs = vss.flatten := by
  induction slots generalizing vs with
  | nil => simp [decodeSlots, eq_comm]
  | cons slot rest ih =>
    simp only [List.forall₂_cons_left_iff]
    cases h₁ : decodeSlot slot with
    | error e =>
      rw [decodeSlots_cons_of_error h₁]
      simp only [reduceCtorEq, false_iff, not_exists, not_and]
      rintro vss ⟨v, more, hv, -, -⟩ -
      rw [(decodeSlot_eq_ok_iff _ _).2 hv] at h₁
      cases h₁
    | ok v =>
      rw [decodeSlots_cons_of_ok h₁, Except.map_eq_ok_iff]
      simp only [ih]
      constructor
      · rintro ⟨_, ⟨mss, hm, rfl⟩, rfl⟩
        exact ⟨v :: mss, ⟨v, mss, (decodeSlot_eq_ok_iff _ _).1 h₁, hm, rfl⟩, by simp⟩
      · rintro ⟨_, ⟨v', mss, hv', hm, rfl⟩, rfl⟩
        -- the reading of the first slot is the decoder's
        have hv := (decodeSlot_eq_ok_iff _ _).2 hv'
        rw [h₁] at hv
        cases hv
        exact ⟨_, ⟨mss, hm, rfl⟩, by simp⟩

/-- The slots fail with the fault of the leftmost slot that stands for nothing. -/
theorem decodeSlots_eq_error_iff (slots : List (List UInt8)) (e : DecodeError) :
    decodeSlots slots = .error e ↔ ∃ pre bad post, slots = pre ++ bad :: post ∧
      (∀ s ∈ pre, ∃ vs, SlotReads s vs) ∧ SlotFault bad e := by
  induction slots with
  | nil => simp [decodeSlots]
  | cons slot rest ih =>
    cases h₁ : decodeSlot slot with
    | error e' =>
      rw [decodeSlots_cons_of_error h₁, Except.error.injEq]
      constructor
      · rintro rfl
        exact ⟨[], slot, rest, rfl, by simp, (decodeSlot_eq_error_iff _ _).1 h₁⟩
      · rintro ⟨pre, bad, post, hs, hpre, hbad⟩
        cases pre with
        | nil =>
          obtain ⟨rfl, rfl⟩ := List.cons.inj hs
          rw [(decodeSlot_eq_error_iff _ _).2 hbad] at h₁
          cases h₁
          rfl
        | cons s pre =>
          obtain ⟨rfl, -⟩ := List.cons.inj hs
          obtain ⟨vs, hvs⟩ := hpre _ (List.mem_cons_self ..)
          rw [(decodeSlot_eq_ok_iff _ _).2 hvs] at h₁
          cases h₁
    | ok v =>
      rw [decodeSlots_cons_of_ok h₁, Except.map_eq_error_iff, ih]
      constructor
      · rintro ⟨pre, bad, post, rfl, hpre, hbad⟩
        refine ⟨slot :: pre, bad, post, rfl, fun s hs => ?_, hbad⟩
        rcases List.mem_cons.1 hs with rfl | hs'
        · exact ⟨v, (decodeSlot_eq_ok_iff _ _).1 h₁⟩
        · exact hpre s hs'
      · rintro ⟨pre, bad, post, hs, hpre, hbad⟩
        cases pre with
        | nil =>
          obtain ⟨rfl, -⟩ := List.cons.inj hs
          rw [(decodeSlot_eq_error_iff _ _).2 hbad] at h₁
          cases h₁
        | cons s pre =>
          obtain ⟨-, rfl⟩ := List.cons.inj hs
          exact ⟨pre, bad, post, rfl, fun s' hs' => hpre s' (List.mem_cons_of_mem _ hs'), hbad⟩

/-- The field decoder accepts exactly the payloads whose `|`-separated slots all read, and gives
    their values in order; otherwise it fails with the fault of the leftmost slot that reads as
    nothing. A text slot is read with `unquote`, which takes exactly the escaped UTF-8 of a text;
    it fails at the first `%` that starts no escape, and for the UTF-8 only when every escape is
    well formed. -/
theorem decodeFields_accepts_slot_grammar :
    (∀ p vs, decodeFields p = .ok vs ↔
      ∃ vss, List.Forall₂ SlotReads (p.splitOn 0x7C) vss ∧ vs = vss.flatten) ∧
    (∀ p e, decodeFields p = .error e ↔
      ∃ pre bad post, p.splitOn 0x7C = pre ++ bad :: post ∧
        (∀ s ∈ pre, ∃ vs, SlotReads s vs) ∧ SlotFault bad e) ∧
    (∀ b t, unquote b = .ok t ↔ Escaped b (Utf8.ofString t)) ∧
    (∀ b e, unquote b = .error e ↔ (∃ i, FirstBadEscape b i ∧ e = escapeFault 0 b i) ∨
      (e = .invalidUtf8 ∧ ∃ out, Escaped b out ∧ ∀ t, out ≠ Utf8.ofString t)) :=
  ⟨fun p => decodeSlots_eq_ok_iff (p.splitOn 0x7C),
    fun p => decodeSlots_eq_error_iff (p.splitOn 0x7C), unquote_eq_ok_iff, unquote_eq_error_iff⟩

/-- `#|%4|%zz`: the second slot is the first that fails, at its `%`, which has one byte after it. -/
example : decodeFields [0x23, 0x7C, 0x25, 0x34, 0x7C, 0x25, 0x7A, 0x7A] =
    .error (.truncatedEscape 0) := by
  decide

end FieldCodec

end TlcpLoad
