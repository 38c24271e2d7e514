import Mathlib
import TlcpLoad.Net.WebSocket

/-! # Client frames read back

`encodeFrame` writes every request of the hand-written WebSocket transport. This module states
the frame format from the other side: `readFrame` reads one frame as RFC 6455 §5.2 lays it out,
and, as §5.2 asks, refuses a payload length that is not written in the fewest bytes and a
64-bit length whose top bit is set.

The main statement, `encodeFrame_minimal_text_frame`, holds for every payload a byte slice can
hold (fewer than 2^63 bytes): the frame is FIN with opcode 1 and the MASK bit, then the length
in one of the three encodings of §5.2 chosen by its size, the zero masking key and the
payload; the reader gives back exactly that payload and leaves whatever follows the frame;
and the frame is 6, 8 or 14 bytes longer than its payload. -/

namespace TlcpLoad.WebSocket

/-! ## Big-endian numbers -/

/-- Bytes read as a big-endian number. -/
def beValue : List UInt8 → Nat
  | [] => 0
  | b :: bs => b.toNat * 256 ^ bs.length + beValue bs

@[simp] theorem length_bigEndian (width n : Nat) : (bigEndian width n).length = width := by
  simp [bigEndian]

theorem bigEndian_succ (width n : Nat) :
    bigEndian (width + 1) n = (n / 256 ^ width % 256).toUInt8 :: bigEndian width n := by
  have hpow : (2 : Nat) ^ (8 * width) = 256 ^ width := by
    rw [pow_mul]
    norm_num
  simp [bigEndian, List.range_succ, hpow]

/-- Writing `width` bytes keeps a number modulo `256 ^ width`. -/
theorem beValue_bigEndian (width n : Nat) : beValue (bigEndian width n) = n % 256 ^ width := by
  induction width with
  | zero => simp [bigEndian, beValue, Nat.mod_one]
  | succ width ih =>
    rw [bigEndian_succ, beValue, ih, length_bigEndian, Nat.mod_pow_succ]
    simp only [Nat.toUInt8_eq, UInt8.toNat_ofNat', Nat.mod_mod]
    ring

/-! ## The frame format -/

/-- One frame as RFC 6455 §5.2 lays it out: the FIN bit, the three reserved bits as a number,
    the opcode, the masking key when the MASK bit is set, and the payload, unmasked. -/
structure Frame where
  fin : Bool
  rsv : Nat
  opcode : Nat
  maskKey : Option (List UInt8)
  payload : List UInt8
  deriving DecidableEq, Repr

/-- An extended payload length: `width` big-endian bytes holding a number in `[lo, hi)`. -/
def readExtended (width lo hi : Nat) (bs : List UInt8) : Option (Nat × List UInt8) :=
  let n := beValue (bs.take width)
  if width ≤ bs.length ∧ lo ≤ n ∧ n < hi then some (n, bs.drop width) else none

/-- The payload length after the 7-bit length field `code`: the field itself up to 125, a
    16-bit length after 126 and a 64-bit length after 127. A length that fits a shorter
    encoding is refused, and so is a 64-bit length with its top bit set. -/
def readLength (code : Nat) (bs : List UInt8) : Option (Nat × List UInt8) :=
  if code ≤ 125 then some (code, bs)
  else if code = 126 then readExtended 2 126 65536 bs
  else readExtended 8 65536 (2 ^ 63) bs

/-- The masking key, read when the MASK bit is set. -/
def readMaskKey (masked : Bool) (bs : List UInt8) : Option (Option (List UInt8) × List UInt8) :=
  if masked then
    if 4 ≤ bs.length then some (some (bs.take 4), bs.drop 4) else none
  else some (none, bs)

/-- Unmasks data with a key: byte `i` is xored with byte `i mod 4` of the key. -/
def unmask : Option (List UInt8) → List UInt8 → List UInt8
  | some key, data => data.mapIdx fun i b => b ^^^ key.getD (i % 4) 0
  | none, data => data

/-- Reads the frame at the front of a byte list, and gives back the bytes after it. Bit 7 of
    the first byte is FIN, bits 4 to 6 the reserved bits and bits 0 to 3 the opcode; bit 7 of
    the second byte is MASK and bits 0 to 6 the length field. -/
def readFrame : List UInt8 → Option (Frame × List UInt8)
  | b0 :: b1 :: bs => do
    let (len, bs) ← readLength (b1.toNat % 128) bs
    let (key, bs) ← readMaskKey (128 ≤ b1.toNat) bs
    if len ≤ bs.length then
      some ({ fin := 128 ≤ b0.toNat, rsv := b0.toNat / 16 % 8, opcode := b0.toNat % 16,
              maskKey := key, payload := unmask key (bs.take len) }, bs.drop len)
    else none
  | _ => none

/-- The frame the client writes for a payload: final, a text frame, masked with the zero
    key. -/
def textFrame (p : List UInt8) : Frame :=
  { fin := true, rsv := 0, opcode := 1, maskKey := some [0, 0, 0, 0], payload := p }

/-! ## Reading what the client writes -/

theorem readExtended_bigEndian {width lo hi n : Nat} (hlo : lo ≤ n) (hhi : n < hi)
    (hw : n < 256 ^ width) (rest : List UInt8) :
    readExtended width lo hi (bigEndian width n ++ rest) = some (n, rest) := by
  have htake : (bigEndian width n ++ rest).take width = bigEndian width n :=
    List.take_left' (length_bigEndian width n)
  have hdrop : (bigEndian width n ++ rest).drop width = rest :=
    List.drop_left' (length_bigEndian width n)
  have hval : beValue (bigEndian width n) = n := by
    rw [beValue_bigEndian, Nat.mod_eq_of_lt hw]
  simp [readExtended, htake, hdrop, hval, hlo, hhi]

theorem unmask_zero (data : List UInt8) : unmask (some [0, 0, 0, 0]) data = data := by
  have hkey : ∀ j : Nat, ([0, 0, 0, 0] : List UInt8)[j]?.getD 0 = 0 := by
    intro j
    rcases j with _ | _ | _ | _ | j <;> simp
  apply List.ext_getElem <;> simp [unmask, hkey]

/-- Once the length field reads as the payload's length, the rest of a client frame reads as
    the zero key and the payload. -/
theorem readFrame_of_readLength {p rest ext : List UInt8} {code : Nat} (hcode : code < 128)
    (hlen : readLength code (ext ++ [0, 0, 0, 0] ++ p ++ rest) =
      some (p.length, [0, 0, 0, 0] ++ p ++ rest)) :
    readFrame (0x81 :: (0x80 + code).toUInt8 :: (ext ++ [0, 0, 0, 0] ++ p ++ rest)) =
      some (textFrame p, rest) := by
  have hb1 : ((0x80 + code).toUInt8).toNat = 0x80 + code := by
    simp only [Nat.toUInt8_eq, UInt8.toNat_ofNat']
    omega
  have hcode' : (0x80 + code) % 128 = code := by omega
  have hkey : readMaskKey true (0 :: 0 :: 0 :: 0 :: (p ++ rest)) =
      some (some [0, 0, 0, 0], p ++ rest) := by
    simp [readMaskKey]
  simp only [readFrame, hb1, hcode', hlen]
  simp [hkey, textFrame, unmask_zero]

/-! ## The frame the client writes -/

/-- The client's frame, by the size of its payload: FIN, opcode 1, the MASK bit with the 7-bit
    length field, the extended length in the fewest bytes, the zero key and the payload. -/
theorem encodeFrame_layout (p : List UInt8) :
    ∃ code ext, code < 128 ∧
      encodeFrame p = 0x81 :: (0x80 + code).toUInt8 :: (ext ++ [0, 0, 0, 0] ++ p) ∧
      (p.length ≤ 125 ∧ code = p.length ∧ ext = [] ∨
        126 ≤ p.length ∧ p.length ≤ 65535 ∧ code = 126 ∧ ext = bigEndian 2 p.length ∨
        65535 < p.length ∧ code = 127 ∧ ext = bigEndian 8 p.length) := by
  by_cases hshort : p.length ≤ 125
  · refine ⟨p.length, [], by omega, ?_, .inl ⟨hshort, rfl, rfl⟩⟩
    simp [encodeFrame, frameHead, hshort]
  · by_cases hmid : p.length ≤ 65535
    · refine ⟨126, bigEndian 2 p.length, by omega, ?_, .inr (.inl ⟨by omega, hmid, rfl, rfl⟩)⟩
      simp [encodeFrame, frameHead, hshort, hmid]
    · refine ⟨127, bigEndian 8 p.length, by omega, ?_, .inr (.inr ⟨by omega, rfl, rfl⟩)⟩
      simp [encodeFrame, frameHead, hshort, hmid]

/-- The reader takes back from every frame the client writes the payload, final, text and
    with the zero key, and leaves what follows. -/
theorem readFrame_encodeFrame (p rest : List UInt8) (hp : p.length < 2 ^ 63) :
    readFrame (encodeFrame p ++ rest) = some (textFrame p, rest) := by
  obtain ⟨code, ext, hcode, henc, hcases⟩ := encodeFrame_layout p
  rw [henc, List.cons_append, List.cons_append]
  apply readFrame_of_readLength hcode
  rcases hcases with ⟨hshort, rfl, rfl⟩ | ⟨hlo, hhi, rfl, rfl⟩ | ⟨hlo, rfl, rfl⟩
  · simp [readLength, hshort]
  · simp only [readLength, show ¬126 ≤ 125 by decide, if_false, if_true, List.append_assoc]
    exact readExtended_bigEndian hlo (by omega) (by omega) _
  · simp only [readLength, show ¬127 ≤ 125 by decide, show ¬(127 = 126) by decide, if_false,
      List.append_assoc]
    exact readExtended_bigEndian (by omega) hp (by omega) _

theorem length_encodeFrame (p : List UInt8) :
    (encodeFrame p).length =
      p.length + if p.length ≤ 125 then 6 else if p.length ≤ 65535 then 8 else 14 := by
  obtain ⟨code, ext, -, henc, hcases⟩ := encodeFrame_layout p
  rw [henc]
  rcases hcases with ⟨hshort, rfl, rfl⟩ | ⟨hlo, hhi, rfl, rfl⟩ | ⟨hlo, rfl, rfl⟩
  · simp [hshort]
  · simp [hhi, show ¬p.length ≤ 125 by omega]
    omega
  · simp [show ¬p.length ≤ 125 by omega, show ¬p.length ≤ 65535 by omega]
    omega

/-- Every payload a slice can hold goes out as the RFC 6455 text frame with FIN and MASK set,
    the length in the fewest bytes and the zero key: the reader gets the payload back and
    leaves what follows, and the frame is 6, 8 or 14 bytes longer than the payload. -/
theorem encodeFrame_minimal_text_frame (p rest : List UInt8) (hp : p.length < 2 ^ 63) :
    (∃ code ext, code < 128 ∧
      encodeFrame p = 0x81 :: (0x80 + code).toUInt8 :: (ext ++ [0, 0, 0, 0] ++ p) ∧
      (p.length ≤ 125 ∧ code = p.length ∧ ext = [] ∨
        126 ≤ p.length ∧ p.length ≤ 65535 ∧ code = 126 ∧ ext = bigEndian 2 p.length ∨
        65535 < p.length ∧ code = 127 ∧ ext = bigEndian 8 p.length)) ∧
    readFrame (encodeFrame p ++ rest) =
      some ({ fin := true, rsv := 0, opcode := 1, maskKey := some [0, 0, 0, 0], payload := p },
        rest) ∧
    (encodeFrame p).length =
      p.length + if p.length ≤ 125 then 6 else if p.length ≤ 65535 then 8 else 14 :=
  ⟨encodeFrame_layout p, readFrame_encodeFrame p rest hp, length_encodeFrame p⟩

/-- A two-byte payload followed by another frame's first byte. -/
theorem encodeFrame_minimal_text_frame_short :
    ([104, 105] : List UInt8).length < 2 ^ 63 ∧
      readFrame (encodeFrame [104, 105] ++ [0x81]) =
        some ({ fin := true, rsv := 0, opcode := 1,
                maskKey := some [0, 0, 0, 0], payload := [104, 105] }, [0x81]) :=
  ⟨by decide, (encodeFrame_minimal_text_frame [104, 105] [0x81] (by decide)).2.1⟩

example : encodeFrame [104, 105] = [0x81, 0x82, 0, 0, 0, 0, 104, 105] := by decide

end TlcpLoad.WebSocket
