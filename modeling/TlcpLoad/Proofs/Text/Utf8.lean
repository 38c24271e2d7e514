import Mathlib
import TlcpLoad.Text.Utf8

/-! # Reading UTF-8 back

The strict reader takes back what the encoder writes: `decode? (encode cs) = some cs` for every
character list, so every string survives a trip through its bytes (`toString?_ofString`).

The proof goes one character at a time. A character of each size class is written as a lead
byte that `step` sorts into the same class, followed by continuation bytes that pass its checks:
the checks that keep out overlong forms, surrogates and code points past U+10FFFF hold because
the code point of a `Char` is a valid one (`toNat_valid`). The low six bits of the continuation
bytes then put the code point together again.

The reader takes nothing else: a byte list it reads is the encoding of what it reads
(`encode_of_decode?`), so `toString? bs = some s` says exactly that `bs` is the UTF-8 of `s`
(`toString?_eq_some_iff`). Here the checks run the other way: a lead byte of a size class and
continuation bytes that pass them put together a valid code point of that class, which the
encoder writes as the same bytes.

The encoding also keeps the order of texts: texts in code point order have their bytes in
byte order (`ofString_lt_ofString`). -/

namespace TlcpLoad.Utf8

/-- A character's code point is below U+110000 and is no surrogate. -/
theorem toNat_valid (c : Char) : c.toNat < 0xD800 ∨ (0xDFFF < c.toNat ∧ c.toNat < 0x110000) :=
  c.valid

theorem toNat_toUInt8 {n : Nat} (h : n < 256) : n.toUInt8.toNat = n := by
  simp [Nat.mod_eq_of_lt h]

theorem toUInt8_eq_of_toNat {b : UInt8} {n : Nat} (h : b.toNat = n) : n.toUInt8 = b := by
  subst h
  exact UInt8.ofNat_toNat

theorem toNat_ofNat_of_valid {n : Nat} (h : n < 0xD800 ∨ (0xDFFF < n ∧ n < 0x110000)) :
    (Char.ofNat n).toNat = n := by
  rw [Char.toNat_ofNat, if_pos h]

theorem isCont_iff (b : UInt8) : isCont b = true ↔ 0x80 ≤ b.toNat ∧ b.toNat ≤ 0xBF := by
  simp [isCont, UInt8.le_iff_toNat_le]

/-- The second byte after a three-byte lead: a continuation byte, from `A0` on after `E0` and
    up to `9F` after `ED`. -/
theorem secondOfThree_iff (lead b : UInt8) :
    secondOfThree lead b = true ↔ isCont b = true ∧
      (lead.toNat = 0xE0 → 0xA0 ≤ b.toNat) ∧ (lead.toNat = 0xED → b.toNat ≤ 0x9F) := by
  rw [isCont_iff]
  unfold secondOfThree
  by_cases hE0 : lead = 0xE0
  · subst hE0
    simp [UInt8.le_iff_toNat_le]
    omega
  by_cases hED : lead = 0xED
  · subst hED
    simp [UInt8.le_iff_toNat_le]
    omega
  have h0 : lead.toNat ≠ 0xE0 := fun h => hE0 (UInt8.toNat_inj.1 h)
  have h1 : lead.toNat ≠ 0xED := fun h => hED (UInt8.toNat_inj.1 h)
  simp [hE0, hED, h0, h1, isCont_iff]

/-- The second byte after a four-byte lead: a continuation byte, from `90` on after `F0` and up
    to `8F` after `F4`. -/
theorem secondOfFour_iff (lead b : UInt8) :
    secondOfFour lead b = true ↔ isCont b = true ∧
      (lead.toNat = 0xF0 → 0x90 ≤ b.toNat) ∧ (lead.toNat = 0xF4 → b.toNat ≤ 0x8F) := by
  rw [isCont_iff]
  unfold secondOfFour
  by_cases hF0 : lead = 0xF0
  · subst hF0
    simp [UInt8.le_iff_toNat_le]
    omega
  by_cases hF4 : lead = 0xF4
  · subst hF4
    simp [UInt8.le_iff_toNat_le]
    omega
  have h0 : lead.toNat ≠ 0xF0 := fun h => hF0 (UInt8.toNat_inj.1 h)
  have h1 : lead.toNat ≠ 0xF4 := fun h => hF4 (UInt8.toNat_inj.1 h)
  simp [hF0, hF4, h0, h1, isCont_iff]

/-! ## One character per size class -/

section Classes

variable {n : Nat} (rest : List UInt8)

theorem step_one (h : n < 0x80) : step n.toUInt8 rest = (.char (Char.ofNat n), rest) := by
  have hb : n.toUInt8.toNat = n := toNat_toUInt8 (by omega)
  unfold step
  rw [if_pos (by rw [UInt8.lt_iff_toNat_lt, hb]; simpa using h), hb]

theorem step_two (h₁ : 0x80 ≤ n) (h₂ : n < 0x800) :
    step (0xC0 + n / 64).toUInt8 ((0x80 + n % 64).toUInt8 :: rest) =
      (.char (Char.ofNat n), rest) := by
  have hb₀ : (0xC0 + n / 64).toUInt8.toNat = 0xC0 + n / 64 := toNat_toUInt8 (by omega)
  have hb₁ : (0x80 + n % 64).toUInt8.toNat = 0x80 + n % 64 := toNat_toUInt8 (by omega)
  unfold step
  rw [if_neg (by rw [UInt8.lt_iff_toNat_lt, hb₀]; simp; omega),
    if_pos (by simp only [UInt8.le_iff_toNat_le, hb₀]; simp; omega)]
  dsimp only
  rw [if_pos (by rw [isCont_iff, hb₁]; omega), low6, hb₀, hb₁]
  -- the lead carries the high five bits, the continuation byte the low six
  rw [show (0xC0 + n / 64 - 0xC0) * 64 + (0x80 + n % 64) % 64 = n by omega]

theorem step_three (h₁ : 0x800 ≤ n) (h₂ : n < 0x10000) (hs : n < 0xD800 ∨ 0xDFFF < n) :
    step (0xE0 + n / 4096).toUInt8
        ((0x80 + n / 64 % 64).toUInt8 :: (0x80 + n % 64).toUInt8 :: rest) =
      (.char (Char.ofNat n), rest) := by
  have hb₀ : (0xE0 + n / 4096).toUInt8.toNat = 0xE0 + n / 4096 := toNat_toUInt8 (by omega)
  have hb₁ : (0x80 + n / 64 % 64).toUInt8.toNat = 0x80 + n / 64 % 64 := toNat_toUInt8 (by omega)
  have hb₂ : (0x80 + n % 64).toUInt8.toNat = 0x80 + n % 64 := toNat_toUInt8 (by omega)
  unfold step
  rw [if_neg (by rw [UInt8.lt_iff_toNat_lt, hb₀]; simp; omega),
    if_neg (by simp only [UInt8.le_iff_toNat_le, hb₀]; simp; omega),
    if_pos (by simp only [UInt8.le_iff_toNat_le, hb₀]; simp; omega)]
  dsimp only
  -- not overlong after `E0`, no surrogate after `ED`
  rw [if_pos (by rw [secondOfThree_iff, isCont_iff, hb₀, hb₁]; omega),
    if_pos (by rw [isCont_iff, hb₂]; omega), low6, low6, hb₀, hb₁, hb₂]
  rw [show (0xE0 + n / 4096 - 0xE0) * 4096 + (0x80 + n / 64 % 64) % 64 * 64
      + (0x80 + n % 64) % 64 = n by omega]

theorem step_four (h₁ : 0x10000 ≤ n) (h₂ : n < 0x110000) :
    step (0xF0 + n / 262144).toUInt8
        ((0x80 + n / 4096 % 64).toUInt8 :: (0x80 + n / 64 % 64).toUInt8 ::
          (0x80 + n % 64).toUInt8 :: rest) =
      (.char (Char.ofNat n), rest) := by
  have hb₀ : (0xF0 + n / 262144).toUInt8.toNat = 0xF0 + n / 262144 := toNat_toUInt8 (by omega)
  have hb₁ : (0x80 + n / 4096 % 64).toUInt8.toNat = 0x80 + n / 4096 % 64 :=
    toNat_toUInt8 (by omega)
  have hb₂ : (0x80 + n / 64 % 64).toUInt8.toNat = 0x80 + n / 64 % 64 := toNat_toUInt8 (by omega)
  have hb₃ : (0x80 + n % 64).toUInt8.toNat = 0x80 + n % 64 := toNat_toUInt8 (by omega)
  unfold step
  rw [if_neg (by rw [UInt8.lt_iff_toNat_lt, hb₀]; simp; omega),
    if_neg (by simp only [UInt8.le_iff_toNat_le, hb₀]; simp; omega),
    if_neg (by simp only [UInt8.le_iff_toNat_le, hb₀]; simp; omega),
    if_pos (by simp only [UInt8.le_iff_toNat_le, hb₀]; simp; omega)]
  dsimp only
  -- not overlong after `F0`, not past U+10FFFF after `F4`
  rw [if_pos (by rw [secondOfFour_iff, isCont_iff, hb₀, hb₁]; omega),
    if_pos (by rw [isCont_iff, hb₂]; omega), if_pos (by rw [isCont_iff, hb₃]; omega),
    low6, low6, low6, hb₀, hb₁, hb₂, hb₃]
  rw [show (0xF0 + n / 262144 - 0xF0) * 262144 + (0x80 + n / 4096 % 64) % 64 * 4096
      + (0x80 + n / 64 % 64) % 64 * 64 + (0x80 + n % 64) % 64 = n by omega]

end Classes

/-! ## Characters and strings -/

/-- The bytes of a character start with a lead byte from which `step` reads the character
    back, leaving whatever followed. -/
theorem step_encodeChar (c : Char) (rest : List UInt8) :
    ∃ b bs, encodeChar c = b :: bs ∧ step b (bs ++ rest) = (.char c, rest) := by
  have hv := toNat_valid c
  unfold encodeChar
  dsimp only
  by_cases h₁ : c.toNat < 0x80
  · exact ⟨_, [], by rw [if_pos h₁], by rw [List.nil_append, step_one rest h₁, Char.ofNat_toNat]⟩
  by_cases h₂ : c.toNat < 0x800
  · refine ⟨_, _, by rw [if_neg h₁, if_pos h₂], ?_⟩
    rw [List.cons_append, List.nil_append, step_two rest (by omega) h₂, Char.ofNat_toNat]
  by_cases h₃ : c.toNat < 0x10000
  · refine ⟨_, _, by rw [if_neg h₁, if_neg h₂, if_pos h₃], ?_⟩
    rw [List.cons_append, List.cons_append, List.nil_append,
      step_three rest (by omega) h₃ (by omega), Char.ofNat_toNat]
  · refine ⟨_, _, by rw [if_neg h₁, if_neg h₂, if_neg h₃], ?_⟩
    rw [List.cons_append, List.cons_append, List.cons_append, List.nil_append,
      step_four rest (by omega) (by omega), Char.ofNat_toNat]

theorem decode?_encodeChar_append (c : Char) (rest : List UInt8) :
    decode? (encodeChar c ++ rest) = (decode? rest).map (c :: ·) := by
  obtain ⟨b, bs, hc, hstep⟩ := step_encodeChar c rest
  rw [hc, List.cons_append, decode?]
  split
  · rename_i c' r h
    rw [hstep] at h
    cases h
    rfl
  · rename_i r h
    rw [hstep] at h
    cases h

/-- Strict decoding reads back every encoded character list. -/
@[simp] theorem decode?_encode (cs : List Char) : decode? (encode cs) = some cs := by
  induction cs with
  | nil => rw [encode_nil, decode?]
  | cons c cs ih => rw [encode_cons, decode?_encodeChar_append, ih, Option.map_some]

/-- Every string survives a trip through its UTF-8 bytes. -/
@[simp] theorem toString?_ofString (s : String) : toString? (ofString s) = some s := by
  simp [toString?, ofString]

theorem ofString_append (s t : String) : ofString (s ++ t) = ofString s ++ ofString t := by
  simp [ofString, encode_append]

theorem encode_intercalate (sep : List Char) (ls : List (List Char)) :
    encode (sep.intercalate ls) = (encode sep).intercalate (ls.map encode) := by
  induction ls with
  | nil => rfl
  | cons a ls ih =>
    cases ls with
    | nil => simp
    | cons b ls =>
      rw [List.intercalate_cons_cons, encode_append, encode_append, ih]
      simp only [List.map_cons, List.intercalate_cons_cons]

/-- Joined texts are written as their bytes joined by the separator's bytes. -/
theorem ofString_intercalate (sep : String) (l : List String) :
    ofString (sep.intercalate l) = (ofString sep).intercalate (l.map ofString) := by
  rw [ofString, String.toList_intercalate, encode_intercalate, List.map_map]
  rfl

/-! ## ASCII -/

/-- An ASCII character is its own byte. -/
theorem encodeChar_of_lt {c : Char} (h : c.toNat < 0x80) : encodeChar c = [c.toNat.toUInt8] := by
  simp [encodeChar, h]

/-- ASCII characters are written one byte each. -/
theorem encode_of_ascii {cs : List Char} (h : ∀ c ∈ cs, c.toNat < 0x80) :
    encode cs = cs.map fun c => c.toNat.toUInt8 := by
  induction cs with
  | nil => rfl
  | cons c cs ih =>
    rw [encode_cons, encodeChar_of_lt (h c (List.mem_cons_self ..)),
      ih fun x hx => h x (List.mem_cons_of_mem _ hx)]
    rfl

/-- A byte below `80` only stands for the ASCII character of that code: the bytes of every other
    character are `80` or above. -/
theorem toNat_of_mem_encodeChar {c : Char} {b : UInt8} (hb : b ∈ encodeChar c)
    (hlt : b.toNat < 0x80) : c.toNat = b.toNat := by
  unfold encodeChar at hb
  dsimp only at hb
  by_cases h₁ : c.toNat < 0x80
  · rw [if_pos h₁, List.mem_singleton] at hb
    rw [hb, toNat_toUInt8 (by omega)]
  -- the bytes of a longer character are a lead byte and continuation bytes, all 80 or above
  have hv := toNat_valid c
  exfalso
  by_cases h₂ : c.toNat < 0x800
  · rw [if_neg h₁, if_pos h₂] at hb
    simp only [List.mem_cons, List.not_mem_nil, or_false] at hb
    rcases hb with rfl | rfl <;> rw [toNat_toUInt8 (by omega)] at hlt <;> omega
  by_cases h₃ : c.toNat < 0x10000
  · rw [if_neg h₁, if_neg h₂, if_pos h₃] at hb
    simp only [List.mem_cons, List.not_mem_nil, or_false] at hb
    rcases hb with rfl | rfl | rfl <;> rw [toNat_toUInt8 (by omega)] at hlt <;> omega
  · rw [if_neg h₁, if_neg h₂, if_neg h₃] at hb
    simp only [List.mem_cons, List.not_mem_nil, or_false] at hb
    rcases hb with rfl | rfl | rfl | rfl <;> rw [toNat_toUInt8 (by omega)] at hlt <;> omega

/-- The bytes of a text hold an ASCII byte only where the text holds its character. -/
theorem not_mem_ofString {s : String} {c : Char} (hc : c ∉ s.toList) (hlt : c.toNat < 0x80) :
    c.toNat.toUInt8 ∉ ofString s := by
  intro hb
  obtain ⟨d, hd, hbd⟩ := List.mem_flatMap.1 hb
  have hcode := toNat_of_mem_encodeChar hbd (by rw [toNat_toUInt8 (by omega)]; exact hlt)
  rw [toNat_toUInt8 (by omega)] at hcode
  exact hc (Char.toNat_inj.1 hcode ▸ hd)

/-! ## Reading only what is encoded -/

section Decoded

variable {b c1 c2 c3 : UInt8}

theorem encodeChar_one (h : b.toNat < 0x80) : encodeChar (Char.ofNat b.toNat) = [b] := by
  rw [encodeChar_of_lt (by rw [toNat_ofNat_of_valid (by omega)]; exact h),
    toNat_ofNat_of_valid (by omega), toUInt8_eq_of_toNat rfl]

theorem encodeChar_two (hb : 0xC2 ≤ b.toNat ∧ b.toNat ≤ 0xDF) (h1 : isCont c1 = true) :
    encodeChar (Char.ofNat ((b.toNat - 0xC0) * 64 + low6 c1)) = [b, c1] := by
  rw [isCont_iff] at h1
  unfold encodeChar low6
  rw [toNat_ofNat_of_valid (by omega)]
  dsimp only
  rw [if_neg (by omega), if_pos (by omega), toUInt8_eq_of_toNat (b := b) (by omega),
    toUInt8_eq_of_toNat (b := c1) (by omega)]

/-- A three-byte sequence that passes the checks is no overlong form and no surrogate. -/
theorem encodeChar_three (hb : 0xE0 ≤ b.toNat ∧ b.toNat ≤ 0xEF)
    (h1 : secondOfThree b c1 = true) (h2 : isCont c2 = true) :
    encodeChar (Char.ofNat ((b.toNat - 0xE0) * 4096 + low6 c1 * 64 + low6 c2)) = [b, c1, c2] := by
  rw [secondOfThree_iff, isCont_iff] at h1
  rw [isCont_iff] at h2
  unfold encodeChar low6
  rw [toNat_ofNat_of_valid (by omega)]
  dsimp only
  rw [if_neg (by omega), if_neg (by omega), if_pos (by omega),
    toUInt8_eq_of_toNat (b := b) (by omega), toUInt8_eq_of_toNat (b := c1) (by omega),
    toUInt8_eq_of_toNat (b := c2) (by omega)]

/-- A four-byte sequence that passes the checks is no overlong form and stays below
    U+110000. -/
theorem encodeChar_four (hb : 0xF0 ≤ b.toNat ∧ b.toNat ≤ 0xF4)
    (h1 : secondOfFour b c1 = true) (h2 : isCont c2 = true) (h3 : isCont c3 = true) :
    encodeChar (Char.ofNat ((b.toNat - 0xF0) * 262144 + low6 c1 * 4096 + low6 c2 * 64
      + low6 c3)) = [b, c1, c2, c3] := by
  rw [secondOfFour_iff, isCont_iff] at h1
  rw [isCont_iff] at h2 h3
  unfold encodeChar low6
  rw [toNat_ofNat_of_valid (by omega)]
  dsimp only
  rw [if_neg (by omega), if_neg (by omega), if_neg (by omega),
    toUInt8_eq_of_toNat (b := b) (by omega), toUInt8_eq_of_toNat (b := c1) (by omega),
    toUInt8_eq_of_toNat (b := c2) (by omega), toUInt8_eq_of_toNat (b := c3) (by omega)]

end Decoded

/-- A step that reads a character has read exactly that character's bytes. -/
theorem step_eq_char {b : UInt8} {rest r : List UInt8} {c : Char}
    (h : step b rest = (.char c, r)) : b :: rest = encodeChar c ++ r := by
  unfold step at h
  -- each branch reads a character of one size class, or fails
  repeat' split at h
  all_goals first
    | (simp only [Prod.mk.injEq, Piece.char.injEq] at h; obtain ⟨rfl, rfl⟩ := h)
    | (simp at h)
  · rename_i hb
    rw [encodeChar_one (by simpa [UInt8.lt_iff_toNat_lt] using hb)]
    rfl
  · rename_i hb _ c1 r1 h1
    rw [encodeChar_two (by simpa [UInt8.le_iff_toNat_le] using hb) h1]
    rfl
  · rename_i hb _ c1 h1 _ c2 r2 h2
    rw [encodeChar_three (by simpa [UInt8.le_iff_toNat_le] using hb) h1 h2]
    rfl
  · rename_i hb _ c1 h1 _ c2 h2 _ c3 r3 h3
    rw [encodeChar_four (by simpa [UInt8.le_iff_toNat_le] using hb) h1 h2 h3]
    rfl

/-- Strict decoding reads only encoded character lists: what it reads is written back as the
    same bytes. -/
theorem encode_of_decode? {bs : List UInt8} {cs : List Char} (h : decode? bs = some cs) :
    encode cs = bs := by
  fun_induction decode? bs generalizing cs with
  | case1 =>
    cases h
    rfl
  | case2 b rest c r hstep _ ih =>
    obtain ⟨cs', hr, rfl⟩ := Option.map_eq_some_iff.1 h
    rw [encode_cons, ih hr, step_eq_char hstep]
  | case3 b rest r hstep =>
    cases h

/-- The strict reader accepts exactly the UTF-8 of a string, and gives back that string. -/
theorem toString?_eq_some_iff {bs : List UInt8} {s : String} :
    toString? bs = some s ↔ ofString s = bs := by
  constructor
  · intro h
    obtain ⟨cs, hcs, rfl⟩ := Option.map_eq_some_iff.1 h
    rw [ofString, String.toList_ofList, encode_of_decode? hcs]
  · rintro rfl
    exact toString?_ofString s

/-! ## Order

UTF-8 keeps the order of code points: of two texts, the one that comes first character by
character also comes first byte by byte (`ofString_lt_ofString`). Of two characters, the
smaller is written with a smaller lead byte, or with the same lead byte and smaller
continuation bytes from some position on, so neither encoding is a prefix of the other. -/

/-- The smaller of two characters has the smaller encoding, and the encodings part before
    either ends. -/
theorem encodeChar_lt_of_lt {c d : Char} (h : c < d) :
    encodeChar c < encodeChar d ∧ ¬ encodeChar c <+: encodeChar d := by
  have hd := toNat_valid d
  have hlt : c.toNat < d.toNat := h
  -- one case per pair of size classes; the bytes compare as the base-64 digits of the code points
  simp only [encodeChar]
  split_ifs <;>
    simp (disch := omega) only [List.cons_lt_cons_iff, UInt8.lt_iff_toNat_lt,
      List.cons_prefix_cons, ← UInt8.toNat_inj, toNat_toUInt8, List.nil_lt_cons,
      List.not_lt_nil, List.nil_prefix, List.prefix_nil, reduceCtorEq] <;>
    omega

/-- Byte lists that part before either ends keep their order whatever follows them. -/
theorem append_lt_append_of_lt {A B : List UInt8} (X Y : List UInt8) (h : A < B)
    (hp : ¬ A <+: B) : A ++ X < B ++ Y := by
  induction A generalizing B with
  | nil => exact absurd List.nil_prefix hp
  | cons a A ih =>
    cases B with
    | nil => exact absurd h (List.not_lt_nil _)
    | cons b B =>
      rcases List.cons_lt_cons_iff.1 h with hab | ⟨rfl, hAB⟩
      · exact List.cons_lt_cons_iff.2 (.inl hab)
      · exact List.cons_lt_cons_iff.2
          (.inr ⟨rfl, ih hAB fun hpre => hp (List.cons_prefix_cons.2 ⟨rfl, hpre⟩)⟩)

theorem encodeChar_ne_nil (c : Char) : encodeChar c ≠ [] := by
  simp only [encodeChar]
  split_ifs <;> simp

theorem encode_lt_encode {cs ds : List Char} (h : cs < ds) : encode cs < encode ds := by
  induction h with
  | @nil d ds =>
    obtain ⟨b, bs, hb⟩ := List.exists_cons_of_ne_nil (encodeChar_ne_nil d)
    simp [hb]
  | @cons c cs ds _ ih => exact List.append_left_lt ih
  | @rel c cs d ds hcd =>
    obtain ⟨hlt, hp⟩ := encodeChar_lt_of_lt hcd
    exact append_lt_append_of_lt _ _ hlt hp

/-- Texts in order have their bytes in order. -/
theorem ofString_lt_ofString {s t : String} (h : s < t) : ofString s < ofString t :=
  encode_lt_encode h

end TlcpLoad.Utf8
