import Mathlib
import TlcpLoad.Proofs.Text.Utf8
import TlcpLoad.Decimal.Numeral

/-! # Reading decimal numerals back

The strict numeral readers take back the decimal text that numbers are written in: a natural
number below the bound reads back from `natText` (`readNat?_natText`), and an integer in range
from `intText` (`readInt?_intText`). Both texts are ASCII, so their bytes are the codes of their
characters; the digits are read with core's `Nat.ofDigitChars`, which inverts `Nat.toDigits`.

The reader of natural numbers takes nothing else: it reads `n` from `d` exactly when `d` is one or
more ASCII digits after an optional `+`, whose value in base ten is `n`, below the bound
(`readNat?_eq_some_iff`). -/

namespace TlcpLoad.Numeral

theorem toNat_of_isDigit {c : Char} (h : c.isDigit = true) : 48 ≤ c.toNat ∧ c.toNat ≤ 57 := by
  simp only [Char.isDigit, Bool.and_eq_true, decide_eq_true_eq, UInt32.le_iff_toNat_le] at h
  exact ⟨h.1, h.2⟩

theorem digitValue?_of_isDigit {c : Char} (h : c.isDigit = true) :
    digitValue? c.toNat.toUInt8 = some (c.toNat - 48) := by
  have hc := toNat_of_isDigit h
  have hb : c.toNat.toUInt8.toNat = c.toNat := Utf8.toNat_toUInt8 (by omega)
  unfold digitValue?
  rw [if_pos (by simp only [UInt8.le_iff_toNat_le, hb]; simp; omega), hb]

/-- A run of digit characters is read as `Nat.ofDigitChars` reads it. -/
theorem digitsFrom_digitChars (cs : List Char) (h : ∀ c ∈ cs, c.isDigit = true) (acc : Nat) :
    digitsFrom acc (cs.map fun c => c.toNat.toUInt8) = some (Nat.ofDigitChars 10 cs acc) := by
  induction cs generalizing acc with
  | nil => rfl
  | cons c cs ih =>
    have hc := h c (List.mem_cons_self ..)
    rw [List.map_cons, digitsFrom, digitValue?_of_isDigit hc, Option.bind_some,
      ih (fun x hx => h x (List.mem_cons_of_mem _ hx)), Nat.ofDigitChars_cons, Nat.mul_comm]
    rfl

theorem isDigit_of_mem_natText {n : Nat} {c : Char} (h : c ∈ Nat.toDigits 10 n) :
    c.isDigit = true :=
  Nat.isDigit_of_mem_toDigits (by decide) (by decide) h

/-- The decimal text of a number is ASCII: its bytes are its digits' codes. -/
theorem ofString_natText (n : Nat) :
    Utf8.ofString (natText n) = (Nat.toDigits 10 n).map fun c => c.toNat.toUInt8 := by
  rw [natText, Utf8.ofString, String.toList_ofList]
  refine Utf8.encode_of_ascii fun c hc => ?_
  have := toNat_of_isDigit (isDigit_of_mem_natText hc)
  omega

theorem digits?_natText (n : Nat) : digits? (Utf8.ofString (natText n)) = some n := by
  obtain ⟨d, ds, hds⟩ := List.exists_cons_of_ne_nil (Nat.toDigits_ne_nil (n := n) (b := 10))
  have hread := digitsFrom_digitChars (Nat.toDigits 10 n) (fun c hc => isDigit_of_mem_natText hc) 0
  rw [Nat.ofDigitChars_ten_toDigits, hds, List.map_cons] at hread
  rw [ofString_natText, hds, List.map_cons]
  exact hread

/-- The decimal text of a number starts with a digit, so with no sign. -/
theorem ofString_natText_eq_cons (n : Nat) :
    ∃ d ds, Utf8.ofString (natText n) = d :: ds ∧ 48 ≤ d.toNat ∧ d.toNat ≤ 57 := by
  obtain ⟨c, cs, hcs⟩ := List.exists_cons_of_ne_nil (Nat.toDigits_ne_nil (n := n) (b := 10))
  have hc := toNat_of_isDigit (isDigit_of_mem_natText (hcs ▸ List.mem_cons_self ..))
  refine ⟨_, _, by rw [ofString_natText, hcs, List.map_cons], ?_⟩
  rw [Utf8.toNat_toUInt8 (by omega)]
  exact hc

/-- A number below the bound reads back from its decimal text. -/
theorem readNat?_natText {bound n : Nat} (h : n < bound) :
    readNat? bound (Utf8.ofString (natText n)) = some n := by
  obtain ⟨d, ds, hd, hd₁, hd₂⟩ := ofString_natText_eq_cons n
  have hplus : d ≠ 0x2B := fun he => by rw [he] at hd₁; simp at hd₁
  unfold readNat?
  dsimp only
  rw [hd]
  -- a text that starts with a digit has no sign to drop
  split
  · rename_i rest heq
    exact absurd (List.cons.inj heq).1 hplus
  · rw [← hd, digits?_natText]
    simp [h]

/-- An integer from `-bound` to `bound - 1` reads back from its decimal text. -/
theorem readInt?_intText {bound : Nat} {i : Int} (h₁ : -(bound : Int) ≤ i) (h₂ : i < bound) :
    readInt? bound (Utf8.ofString (intText i)) = some i := by
  unfold intText
  split
  · -- a negative integer: a minus sign, then the digits of its absolute value
    rename_i hneg
    rw [Utf8.ofString_append, show Utf8.ofString "-" = [0x2D] from rfl, List.singleton_append,
      readInt?, digits?_natText]
    simp only [Option.bind_some]
    rw [if_pos (by omega)]
    congr 1
    omega
  · rename_i hnonneg
    obtain ⟨d, ds, hd, hd₁, hd₂⟩ := ofString_natText_eq_cons i.natAbs
    have hminus : d ≠ 0x2D := fun he => by rw [he] at hd₁; simp at hd₁
    have hplus : d ≠ 0x2B := fun he => by rw [he] at hd₁; simp at hd₁
    rw [hd]
    unfold readInt?
    split
    · rename_i rest heq
      exact absurd (List.cons.inj heq).1 hminus
    · rename_i rest heq
      exact absurd (List.cons.inj heq).1 hplus
    · rw [← hd, digits?_natText]
      simp only [Option.bind_some]
      rw [if_pos (by omega)]
      congr 1
      omega

theorem readU32?_natText {n : Nat} (h : n < Nat.pow 2 32) :
    readU32? (Utf8.ofString (natText n)) = some n :=
  readNat?_natText h

theorem readU64?_natText {n : Nat} (h : n < Nat.pow 2 64) :
    readU64? (Utf8.ofString (natText n)) = some n :=
  readNat?_natText h

theorem readI32?_intText {i : Int} (h₁ : -(Nat.pow 2 31 : Int) ≤ i) (h₂ : i < Nat.pow 2 31) :
    readI32? (Utf8.ofString (intText i)) = some i :=
  readInt?_intText h₁ h₂

/-! ## Which numerals are read -/

/-- An ASCII digit byte. -/
def IsDigitByte (b : UInt8) : Prop :=
  0x30 ≤ b.toNat ∧ b.toNat ≤ 0x39

/-- The value of the digit bytes `ds`, most significant first. -/
def digitsValue (ds : List UInt8) : Nat :=
  Nat.ofDigits 10 (ds.reverse.map fun c => c.toNat - 0x30)

/-- `d` is a decimal numeral of `n`: one or more ASCII digits after an optional `+`. -/
def NatNumeral (d : List UInt8) (n : Nat) : Prop :=
  ∃ ds, (d = ds ∨ d = 0x2B :: ds) ∧ ds ≠ [] ∧ (∀ c ∈ ds, IsDigitByte c) ∧ n = digitsValue ds

theorem digitsValue_cons (c : UInt8) (ds : List UInt8) :
    digitsValue (c :: ds) = digitsValue ds + 10 ^ ds.length * (c.toNat - 0x30) := by
  simp [digitsValue, Nat.ofDigits_append]

theorem digitValue?_eq_some_iff {b : UInt8} {v : Nat} :
    digitValue? b = some v ↔ IsDigitByte b ∧ v = b.toNat - 0x30 := by
  unfold digitValue? IsDigitByte
  split <;> simp_all [UInt8.le_iff_toNat_le, eq_comm]

/-- Reading digits on top of `acc` shifts `acc` past them. -/
theorem digitsFrom_eq_some_iff {acc n : Nat} {ds : List UInt8} :
    digitsFrom acc ds = some n ↔
      (∀ c ∈ ds, IsDigitByte c) ∧ n = acc * 10 ^ ds.length + digitsValue ds := by
  induction ds generalizing acc with
  | nil => simp [digitsFrom, digitsValue, eq_comm]
  | cons c ds ih =>
    rw [digitsFrom, Option.bind_eq_some_iff]
    simp only [digitValue?_eq_some_iff, ih, List.forall_mem_cons, digitsValue_cons,
      List.length_cons]
    constructor
    · rintro ⟨v, ⟨hc, rfl⟩, hds, rfl⟩
      refine ⟨⟨hc, hds⟩, ?_⟩
      ring
    · rintro ⟨⟨hc, hds⟩, rfl⟩
      refine ⟨_, ⟨hc, rfl⟩, hds, ?_⟩
      ring

theorem digits?_eq_some_iff {n : Nat} {ds : List UInt8} :
    digits? ds = some n ↔ ds ≠ [] ∧ (∀ c ∈ ds, IsDigitByte c) ∧ n = digitsValue ds := by
  cases ds with
  | nil => simp [digits?]
  | cons c ds =>
    simp [digits?, digitsFrom_eq_some_iff]

/-- The strict reader takes exactly the numerals of the values below its bound. -/
theorem readNat?_eq_some_iff {bound n : Nat} {d : List UInt8} :
    readNat? bound d = some n ↔ NatNumeral d n ∧ n < bound := by
  unfold readNat?
  rw [Option.filter_eq_some_iff, digits?_eq_some_iff, decide_eq_true_eq]
  -- a leading `+` is dropped; it is no digit, so it cannot start the digits themselves
  have hplus : ¬IsDigitByte 0x2B := by unfold IsDigitByte; decide
  split
  · rename_i rest
    constructor
    · rintro ⟨⟨hne, hds, rfl⟩, hlt⟩
      exact ⟨⟨rest, .inr rfl, hne, hds, rfl⟩, hlt⟩
    · rintro ⟨⟨ds, hd | hd, hne, hds, rfl⟩, hlt⟩
      · exact absurd (hds 0x2B (hd ▸ List.mem_cons_self ..)) hplus
      · cases hd
        exact ⟨⟨hne, hds, rfl⟩, hlt⟩
  · rename_i hd
    constructor
    · rintro ⟨⟨hne, hds, rfl⟩, hlt⟩
      exact ⟨⟨d, .inl rfl, hne, hds, rfl⟩, hlt⟩
    · rintro ⟨⟨ds, rfl | rfl, hne, hds, rfl⟩, hlt⟩
      · exact ⟨⟨hne, hds, rfl⟩, hlt⟩
      · exact absurd rfl (hd ds)

end TlcpLoad.Numeral
