import Mathlib
import TlcpLoad.Proofs.Decimal.Numeral
import TlcpLoad.Wire.Field

/-! # The field codec reads back what is written

`quote` writes every byte of a text's UTF-8 either as itself, when it is an ASCII letter or digit
or one of `-_.~`, or as `%` and two uppercase hexadecimal digits (`QuotedText`). So a quoted text
holds none of the separators and markers of the protocol, and `unquote` reads the text back
(`unquote_quote`).

An update payload is written slot by slot (`Slot`): an unchanged field as the empty slot, null
as `#`, the empty text as `$`, any other text quoted, and a run of `k` unchanged fields, when the
writer wants, as `^k`. The slots are joined by `|` (`Slot.payload`), and `decodeFields` gives back
the values of the slots in order (`decodeFields_payload`). The empty text needs its marker
because the empty slot already means unchanged; a quoted text never starts a marker because
`#`, `$` and `^` are escaped. -/

namespace TlcpLoad

namespace FieldCodec

/-! ## The alphabet of quoted text -/

/-- ASCII letters and digits and `-`, `_`, `.`, `~`: the characters quoted text keeps. -/
def IsUnreservedChar (c : Char) : Prop :=
  (0x30 ≤ c.toNat ∧ c.toNat ≤ 0x39) ∨ (0x41 ≤ c.toNat ∧ c.toNat ≤ 0x5A) ∨
    (0x61 ≤ c.toNat ∧ c.toNat ≤ 0x7A) ∨
    c.toNat = 0x2D ∨ c.toNat = 0x5F ∨ c.toNat = 0x2E ∨ c.toNat = 0x7E

/-- The digits of an escape: `0` to `9` and `A` to `F`. -/
def IsUpperHexDigit (c : Char) : Prop :=
  (0x30 ≤ c.toNat ∧ c.toNat ≤ 0x39) ∨ (0x41 ≤ c.toNat ∧ c.toNat ≤ 0x46)

/-- Quoted text: characters kept as they are, and escapes of `%` and two uppercase hexadecimal
    digits. -/
inductive QuotedText : List Char → Prop where
  | nil : QuotedText []
  | plain {c : Char} {rest : List Char} : IsUnreservedChar c → QuotedText rest →
      QuotedText (c :: rest)
  | escape {hi lo : Char} {rest : List Char} : IsUpperHexDigit hi → IsUpperHexDigit lo →
      QuotedText rest → QuotedText ('%' :: hi :: lo :: rest)

/-- Every character of quoted text is kept, a `%`, or a digit of an escape. -/
theorem QuotedText.forall_mem {cs : List Char} (h : QuotedText cs) :
    ∀ c ∈ cs, IsUnreservedChar c ∨ c = '%' ∨ IsUpperHexDigit c := by
  induction h with
  | nil => simp
  | plain hc _ ih =>
    intro x hx
    rcases List.mem_cons.1 hx with rfl | hx
    · exact .inl hc
    · exact ih x hx
  | escape hhi hlo _ ih =>
    intro x hx
    simp only [List.mem_cons] at hx
    rcases hx with rfl | rfl | rfl | hx
    · exact .inr (.inl rfl)
    · exact .inr (.inr hhi)
    · exact .inr (.inr hlo)
    · exact ih x hx

theorem toNat_lt_of_quotedChar {c : Char} (h : IsUnreservedChar c ∨ c = '%' ∨ IsUpperHexDigit c) :
    c.toNat < 0x80 := by
  unfold IsUnreservedChar IsUpperHexDigit at h
  rcases h with h | rfl | h
  · omega
  · decide
  · omega

/-! ## How one byte is written -/

theorem isUnreserved_iff (b : UInt8) :
    isUnreserved b = true ↔ (0x30 ≤ b.toNat ∧ b.toNat ≤ 0x39) ∨
      (0x41 ≤ b.toNat ∧ b.toNat ≤ 0x5A) ∨ (0x61 ≤ b.toNat ∧ b.toNat ≤ 0x7A) ∨
      b.toNat = 0x2D ∨ b.toNat = 0x5F ∨ b.toNat = 0x2E ∨ b.toNat = 0x7E := by
  simp only [isUnreserved, Bool.or_eq_true, Bool.and_eq_true, decide_eq_true_eq,
    UInt8.le_iff_toNat_le, beq_iff_eq, ← UInt8.toNat_inj]
  simp [or_assoc]

theorem toNat_ofNat_of_lt {n : Nat} (h : n < 0x80) : (Char.ofNat n).toNat = n := by
  rw [Char.toNat_ofNat, if_pos (.inl (by omega))]

theorem toNat_upperHex {n : Nat} (h : n < 16) :
    (upperHex n).toNat = if n < 10 then 0x30 + n else 0x37 + n := by
  unfold upperHex
  split
  · rw [toNat_ofNat_of_lt (by omega)]
  · rw [toNat_ofNat_of_lt (by omega)]
    omega

theorem isUpperHexDigit_upperHex {n : Nat} (h : n < 16) : IsUpperHexDigit (upperHex n) := by
  unfold IsUpperHexDigit
  rw [toNat_upperHex h]
  split <;> omega

/-- A byte kept as it is is written as the character of the same code. -/
theorem quoteByte_of_unreserved {b : UInt8} (h : isUnreserved b = true) :
    quoteByte b = [Char.ofNat b.toNat] := by
  simp [quoteByte, h]

/-- Any other byte is escaped with the two hexadecimal digits of its value. -/
theorem quoteByte_of_reserved {b : UInt8} (h : isUnreserved b = false) :
    quoteByte b = ['%', upperHex (b.toNat / 16), upperHex (b.toNat % 16)] := by
  simp [quoteByte, h]

theorem quotedText_quoteByte_append (b : UInt8) {rest : List Char} (h : QuotedText rest) :
    QuotedText (quoteByte b ++ rest) := by
  cases hb : isUnreserved b
  · rw [quoteByte_of_reserved hb]
    have : b.toNat < 256 := UInt8.toNat_lt_size b
    exact .escape (isUpperHexDigit_upperHex (by omega)) (isUpperHexDigit_upperHex (by omega)) h
  · rw [quoteByte_of_unreserved hb]
    have hc := (isUnreserved_iff b).1 hb
    refine .plain ?_ h
    unfold IsUnreservedChar
    rw [toNat_ofNat_of_lt (by omega)]
    exact hc

/-- Quoted text is made of kept characters and uppercase escapes only. -/
theorem quotedText_quote (s : String) : QuotedText (quote s).toList := by
  rw [quote, String.toList_ofList]
  induction Utf8.ofString s with
  | nil => exact .nil
  | cons b bs ih =>
    rw [List.flatMap_cons]
    exact quotedText_quoteByte_append b ih

/-- None of the protocol's separators and markers appears in quoted text. -/
theorem quote_avoids (s : String) :
    ∀ c ∈ (quote s).toList, c ∉ ['|', '#', '$', '^', '&', '=', ',', '\r', '\n'] := by
  intro c hc hsep
  have h := (quotedText_quote s).forall_mem c hc
  unfold IsUnreservedChar IsUpperHexDigit at h
  simp only [List.mem_cons, List.not_mem_nil, or_false] at hsep
  rcases hsep with rfl | rfl | rfl | rfl | rfl | rfl | rfl | rfl | rfl <;> simp at h

/-! ## Reading one byte back -/

/-- The byte a quoted character stands for. -/
def charByte (c : Char) : UInt8 :=
  c.toNat.toUInt8

theorem hexDigit_upperHex (pos : Nat) {n : Nat} (h : n < 16) :
    hexDigit pos (charByte (upperHex n)) = .ok n := by
  have hb : (charByte (upperHex n)).toNat = if n < 10 then 0x30 + n else 0x37 + n := by
    rw [charByte, toNat_upperHex h, Utf8.toNat_toUInt8 (by split <;> omega)]
  unfold hexDigit
  by_cases hn : n < 10
  · rw [if_pos hn] at hb
    rw [if_pos (by simp only [UInt8.le_iff_toNat_le, hb]; simp; omega), hb]
    congr 1
    omega
  · rw [if_neg hn] at hb
    rw [if_neg (by simp only [UInt8.le_iff_toNat_le, hb]; simp; omega),
      if_neg (by simp only [UInt8.le_iff_toNat_le, hb]; simp; omega),
      if_pos (by simp only [UInt8.le_iff_toNat_le, hb]; simp; omega), hb]
    congr 1
    omega

/-- A byte other than `%` stands for itself. -/
theorem unescape_of_ne {b : UInt8} (h : b ≠ 0x25) (pos : Nat) (rest : List UInt8) :
    unescape pos (b :: rest) = (unescape (pos + 1) rest).map (b :: ·) := by
  rw [unescape.eq_def]
  dsimp only
  rw [if_neg h]
  cases unescape (pos + 1) rest <;> rfl

/-- `%` and two hexadecimal digits stand for the byte of their value. -/
theorem unescape_escape {pos : Nat} {hi lo : UInt8} {h l : Nat} (hh : hexDigit (pos + 1) hi = .ok h)
    (hl : hexDigit (pos + 2) lo = .ok l) (more : List UInt8) :
    unescape pos (0x25 :: hi :: lo :: more) =
      (unescape (pos + 3) more).map ((h * 16 + l).toUInt8 :: ·) := by
  rw [unescape.eq_2, if_pos rfl, hh, hl]
  dsimp only
  cases unescape (pos + 3) more <;> rfl

/-- A written byte is read back, and the reading goes on after it. -/
theorem unescape_quoteByte (pos : Nat) (b : UInt8) (rest : List UInt8) :
    unescape pos ((quoteByte b).map charByte ++ rest) =
      (unescape (pos + (quoteByte b).length) rest).map (b :: ·) := by
  have hlt : b.toNat < 256 := UInt8.toNat_lt_size b
  cases hb : isUnreserved b
  · -- an escape: `%`, then the high and the low digit
    rw [quoteByte_of_reserved hb]
    have hval : (b.toNat / 16 * 16 + b.toNat % 16).toUInt8 = b := by
      rw [show b.toNat / 16 * 16 + b.toNat % 16 = b.toNat by omega]
      exact UInt8.ofNat_toNat
    rw [List.map_cons, List.map_cons, List.map_cons, List.map_nil, List.cons_append,
      List.cons_append, List.cons_append, List.nil_append, show charByte '%' = 0x25 from rfl,
      unescape_escape (hexDigit_upperHex (pos + 1) (show b.toNat / 16 < 16 by omega))
        (hexDigit_upperHex (pos + 2) (show b.toNat % 16 < 16 by omega)), hval]
    rfl
  · -- a kept byte is not `%`, and stands for itself
    have hc := (isUnreserved_iff b).1 hb
    rw [quoteByte_of_unreserved hb]
    have hbyte : charByte (Char.ofNat b.toNat) = b := by
      rw [charByte, toNat_ofNat_of_lt (by omega)]
      exact UInt8.ofNat_toNat
    rw [List.map_cons, List.map_nil, List.cons_append, List.nil_append, hbyte,
      unescape_of_ne (fun he => by rw [he] at hc; simp at hc)]
    rfl

theorem unescape_quoted (bs : List UInt8) (pos : Nat) :
    unescape pos (bs.flatMap fun b => (quoteByte b).map charByte) = .ok bs := by
  induction bs generalizing pos with
  | nil => rfl
  | cons b bs ih =>
    rw [List.flatMap_cons, unescape_quoteByte, ih]
    rfl

/-- Quoted text is ASCII: its bytes are the codes of its characters. -/
theorem ofString_quote_eq_map (s : String) :
    Utf8.ofString (quote s) = (quote s).toList.map charByte :=
  Utf8.encode_of_ascii fun c hc => toNat_lt_of_quotedChar ((quotedText_quote s).forall_mem c hc)

theorem ofString_quote (s : String) :
    Utf8.ofString (quote s) = (Utf8.ofString s).flatMap fun b => (quoteByte b).map charByte := by
  rw [ofString_quote_eq_map, quote, String.toList_ofList, List.map_flatMap]

/-- No byte of quoted text is a separator or a marker of the field codec. -/
theorem ne_of_mem_ofString_quote {s : String} {b : UInt8} (hb : b ∈ Utf8.ofString (quote s)) :
    b ≠ 0x7C ∧ b ≠ 0x23 ∧ b ≠ 0x24 ∧ b ≠ 0x5E := by
  rw [ofString_quote_eq_map] at hb
  obtain ⟨c, hc, rfl⟩ := List.mem_map.1 hb
  have hascii := toNat_lt_of_quotedChar ((quotedText_quote s).forall_mem c hc)
  have havoid := quote_avoids s c hc
  -- a byte equal to a marker would be the code of that marker's character
  have hcode : ∀ d : Char, d.toNat < 0x80 → charByte c = charByte d → c = d := fun d hd he => by
    have := congrArg UInt8.toNat he
    rw [charByte, charByte, Utf8.toNat_toUInt8 (by omega), Utf8.toNat_toUInt8 (by omega)] at this
    exact Char.toNat_inj.1 this
  refine ⟨fun he => havoid ?_, fun he => havoid ?_, fun he => havoid ?_, fun he => havoid ?_⟩
  · rw [hcode '|' (by decide) he]; simp
  · rw [hcode '#' (by decide) he]; simp
  · rw [hcode '$' (by decide) he]; simp
  · rw [hcode '^' (by decide) he]; simp

/-- Quoting then unquoting gives back every text. -/
theorem unquote_quote (s : String) : unquote (Utf8.ofString (quote s)) = .ok s := by
  rw [unquote, ofString_quote, unescape_quoted]
  dsimp only
  rw [Utf8.toString?_ofString]

/-- The quoted text of a non-empty text is not empty. -/
theorem ofString_quote_ne_nil {s : String} (h : s ≠ "") : Utf8.ofString (quote s) ≠ [] := by
  rw [ofString_quote]
  obtain ⟨c, cs, hcs⟩ := List.exists_cons_of_ne_nil (show s.toList ≠ [] by simpa using h)
  obtain ⟨b, bs, hb, -⟩ := Utf8.step_encodeChar c []
  rw [Utf8.ofString, hcs, Utf8.encode_cons, hb, List.cons_append, List.flatMap_cons]
  cases hu : isUnreserved b
  · simp [quoteByte_of_reserved hu]
  · simp [quoteByte_of_unreserved hu]

/-! ## Update payloads -/

/-- How a field value is written as one slot: unchanged as the empty slot, null as `#`, the empty
    text as `$`, and any other text quoted. -/
def slotText : FieldValue → String
  | .unchanged => ""
  | .null => "#"
  | .text s => if s = "" then "$" else quote s

/-- A slot of an update payload: the value of one field, or a run of unchanged fields. -/
inductive Slot where
  | value (v : FieldValue)
  | unchangedRun (k : Nat)

namespace Slot

/-- The text of a slot; a run of `k` unchanged fields is `^k`. -/
def text : Slot → String
  | .value v => slotText v
  | .unchangedRun k => "^" ++ Numeral.natText k

/-- The values a slot stands for. -/
def values : Slot → List FieldValue
  | .value v => [v]
  | .unchangedRun k => List.replicate k .unchanged

/-- An update payload: the texts of its slots joined by `|`. -/
def payload (slots : List Slot) : String :=
  "|".intercalate (slots.map text)

/-- Whether every run of a slot is one that `^` may stand for. -/
def RunsFit (slots : List Slot) : Prop :=
  ∀ k, unchangedRun k ∈ slots → k ≤ maxUnchangedRun

/-- Each slot is read back as the values it stands for. -/
theorem decodeSlot_text (slot : Slot) (hrun : ∀ k, slot = unchangedRun k → k ≤ maxUnchangedRun) :
    decodeSlot (Utf8.ofString slot.text) = .ok slot.values := by
  cases slot with
  | value v =>
    cases v with
    | unchanged => rfl
    | null => rfl
    | text s =>
      by_cases hs : s = ""
      · subst hs
        rfl
      · -- a non-empty text is quoted, so it is neither empty nor a marker
        simp only [text, slotText, if_neg hs, values]
        have hne := ofString_quote_ne_nil hs
        have hmark : ∀ b ∈ Utf8.ofString (quote s), b ≠ 0x23 ∧ b ≠ 0x24 ∧ b ≠ 0x5E :=
          fun b hb => (ne_of_mem_ofString_quote hb).2
        have hread := unquote_quote s
        generalize Utf8.ofString (quote s) = bs at hne hmark hread
        unfold decodeSlot
        split
        · exact absurd rfl hne
        · exact absurd rfl (hmark 0x23 (by simp)).1
        · exact absurd rfl (hmark 0x24 (by simp)).2.1
        · exact absurd rfl (hmark 0x5E (by simp)).2.2
        · rw [hread]
          rfl
  | unchangedRun k =>
    have hk := hrun k rfl
    have hread : Numeral.readU64? (Utf8.ofString (Numeral.natText k)) = some k :=
      Numeral.readU64?_natText (by unfold maxUnchangedRun at hk; simp only [Nat.pow_eq]; omega)
    rw [text, Utf8.ofString_append, show Utf8.ofString "^" = [0x5E] from rfl,
      List.singleton_append, decodeSlot, runLength, hread, Option.filter_some,
      decide_eq_true hk, if_pos rfl]
    rfl

/-- No slot's text holds the separator `|`. -/
theorem not_mem_text (slot : Slot) : (0x7C : UInt8) ∉ Utf8.ofString slot.text := by
  cases slot with
  | value v =>
    cases v with
    | unchanged | null => decide
    | text s =>
      simp only [text, slotText]
      split
      · decide
      · exact fun h => (ne_of_mem_ofString_quote h).1 rfl
  | unchangedRun k =>
    rw [text, Utf8.ofString_append, Numeral.ofString_natText]
    simp only [List.mem_append, List.mem_map, not_or, not_exists, not_and]
    refine ⟨by decide, fun c hc he => ?_⟩
    have hd := Numeral.toNat_of_isDigit (Numeral.isDigit_of_mem_natText hc)
    have := congrArg UInt8.toNat he
    rw [Utf8.toNat_toUInt8 (by omega)] at this
    simp at this
    omega

theorem ofString_payload (slots : List Slot) :
    Utf8.ofString (payload slots) = [0x7C].intercalate (slots.map fun s => Utf8.ofString s.text) := by
  rw [payload, Utf8.ofString_intercalate, List.map_map]
  rfl

theorem decodeSlots_map (slots : List Slot) (hruns : RunsFit slots) :
    decodeSlots (slots.map fun s => Utf8.ofString s.text) = .ok (slots.flatMap values) := by
  induction slots with
  | nil => rfl
  | cons slot slots ih =>
    have hhead := decodeSlot_text slot fun k hk => hruns k (hk ▸ List.mem_cons_self ..)
    have htail := ih fun k hk => hruns k (List.mem_cons_of_mem _ hk)
    rw [List.map_cons, decodeSlots, hhead, htail, List.flatMap_cons]

/-- A written payload is read back as the values of its slots, in order. -/
theorem decodeFields_payload {slots : List Slot} (hne : slots ≠ []) (hruns : RunsFit slots) :
    decodeFields (Utf8.ofString (payload slots)) = .ok (slots.flatMap values) := by
  have hsep : ∀ l ∈ slots.map (fun s => Utf8.ofString s.text), (0x7C : UInt8) ∉ l := by
    intro l hl
    obtain ⟨slot, -, rfl⟩ := List.mem_map.1 hl
    exact not_mem_text slot
  rw [decodeFields, ofString_payload, List.splitOn_intercalate _ hsep (by simpa using hne),
    decodeSlots_map slots hruns]

/-- A payload of one slot per value is read back as the values. -/
theorem decodeFields_payload_values {vs : List FieldValue} (hne : vs ≠ []) :
    decodeFields (Utf8.ofString (payload (vs.map value))) = .ok vs := by
  have hruns : RunsFit (vs.map value) := fun k hk => by simp at hk
  rw [decodeFields_payload (by simpa using hne) hruns, List.flatMap_map]
  simp [values]

end Slot

/-- The field codec reads back what is written. Unquoting gives back every quoted text; quoted
    text is made of ASCII letters and digits, `-_.~` and escapes with uppercase digits only, so it
    holds no `|`, `#`, `$`, `^`, `&`, `=`, comma, CR or LF. A payload written from a non-empty
    list of values, one slot each, is read back as that list, and so is one in which some runs of
    unchanged fields, none longer than 65536, are written `^k`. -/
theorem fields_read_back :
    (∀ s, unquote (Utf8.ofString (quote s)) = .ok s) ∧
    (∀ s, QuotedText (quote s).toList ∧
      ∀ c ∈ (quote s).toList, c ∉ ['|', '#', '$', '^', '&', '=', ',', '\r', '\n']) ∧
    (∀ vs : List FieldValue, vs ≠ [] →
      decodeFields (Utf8.ofString (Slot.payload (vs.map .value))) = .ok vs) ∧
    (∀ slots : List Slot, slots ≠ [] → Slot.RunsFit slots →
      decodeFields (Utf8.ofString (Slot.payload slots)) = .ok (slots.flatMap Slot.values)) :=
  ⟨unquote_quote, fun s => ⟨quotedText_quote s, quote_avoids s⟩,
    fun _ hne => Slot.decodeFields_payload_values hne,
    fun _ hne hruns => Slot.decodeFields_payload hne hruns⟩

/-- Values with separators, markers and an empty text in them, written one slot each and with a
    run of three unchanged fields written `^3`, are read back. -/
theorem fields_read_back_sample :
    decodeFields (Utf8.ofString (Slot.payload
      ([.text "a|b", .null, .text "", .text "^#$%"].map .value))) =
        .ok [.text "a|b", .null, .text "", .text "^#$%"] ∧
    decodeFields (Utf8.ofString (Slot.payload
      [.value (.text "x"), .unchangedRun 3, .value .unchanged])) =
        .ok ([Slot.value (.text "x"), .unchangedRun 3, .value .unchanged].flatMap Slot.values) :=
  ⟨fields_read_back.2.2.1 _ (by simp),
    fields_read_back.2.2.2 _ (by simp) (fun k hk => by simp at hk; subst hk; decide)⟩

end FieldCodec

end TlcpLoad
