/-! # SHA-1

The digest of FIPS 180-4 §6.1 over a byte list: the message is padded with a 1 bit, zeros,
and its bit length as a 64-bit big-endian number, to a multiple of 64 bytes; each 64-byte
block is mixed into five 32-bit words by 80 rounds. The WebSocket handshake uses it to prove
that the server read the client's key. -/

namespace TlcpLoad.Sha1

/-- Rotates a 32-bit word left. -/
def rotl (x : UInt32) (n : UInt32) : UInt32 :=
  (x <<< n) ||| (x >>> (32 - n))

/-- The 32-bit big-endian word of four bytes. -/
def word (a b c d : UInt8) : UInt32 :=
  (a.toUInt32 <<< 24) ||| (b.toUInt32 <<< 16) ||| (c.toUInt32 <<< 8) ||| d.toUInt32

/-- The words of a block, four bytes each. -/
def words : List UInt8 → List UInt32
  | a :: b :: c :: d :: rest => word a b c d :: words rest
  | _ => []

/-- The 80 words of the message schedule of a block. -/
def schedule (w : List UInt32) : Array UInt32 :=
  (List.range 64).foldl
    (fun (acc : Array UInt32) i =>
      acc.push (rotl (acc[i + 13]! ^^^ acc[i + 8]! ^^^ acc[i + 2]! ^^^ acc[i]!) 1))
    w.toArray

/-- The round function and constant of round `t`. -/
def roundMix (t : Nat) (b c d : UInt32) : UInt32 × UInt32 :=
  if t < 20 then ((b &&& c) ||| ((~~~b) &&& d), 0x5A827999)
  else if t < 40 then (b ^^^ c ^^^ d, 0x6ED9EBA1)
  else if t < 60 then ((b &&& c) ||| (b &&& d) ||| (c &&& d), 0x8F1BBCDC)
  else (b ^^^ c ^^^ d, 0xCA62C1D6)

/-- The five chaining words. -/
structure State where
  h0 : UInt32
  h1 : UInt32
  h2 : UInt32
  h3 : UInt32
  h4 : UInt32

/-- The chaining words before the first block. -/
def State.initial : State :=
  ⟨0x67452301, 0xEFCDAB89, 0x98BADCFE, 0x10325476, 0xC3D2E1F0⟩

/-- Mixes one 64-byte block into the state. -/
def State.absorb (s : State) (block : List UInt8) : State :=
  let w := schedule (words block)
  let (a, b, c, d, e) := (List.range 80).foldl
    (fun (acc : UInt32 × UInt32 × UInt32 × UInt32 × UInt32) t =>
      let (a, b, c, d, e) := acc
      let (f, k) := roundMix t b c d
      let temp := rotl a 5 + f + e + k + w[t]!
      (temp, a, rotl b 30, c, d))
    (s.h0, s.h1, s.h2, s.h3, s.h4)
  ⟨s.h0 + a, s.h1 + b, s.h2 + c, s.h3 + d, s.h4 + e⟩

/-- The 64-bit big-endian bytes of a number. -/
def bytes64 (n : Nat) : List UInt8 :=
  (List.range 8).reverse.map fun i => (n / Nat.pow 2 (8 * i) % 256).toUInt8

/-- The message with its padding. -/
def pad (msg : List UInt8) : List UInt8 :=
  let zeros := (119 - msg.length % 64) % 64
  msg ++ [0x80] ++ List.replicate zeros 0 ++ bytes64 (8 * msg.length)

/-- Mixes every 64-byte block of a padded message into the state. -/
def absorbAll (s : State) (bs : List UInt8) : State :=
  if _h : bs.length < 64 then s
  else absorbAll (s.absorb (bs.take 64)) (bs.drop 64)
termination_by bs.length
decreasing_by simp; omega

/-- The four big-endian bytes of a word. -/
def wordBytes (x : UInt32) : List UInt8 :=
  [(x >>> 24).toUInt8, (x >>> 16).toUInt8, (x >>> 8).toUInt8, x.toUInt8]

/-- The 20-byte SHA-1 digest of a message. -/
def digest (msg : List UInt8) : List UInt8 :=
  let s := absorbAll State.initial (pad msg)
  [s.h0, s.h1, s.h2, s.h3, s.h4].flatMap wordBytes

end TlcpLoad.Sha1
