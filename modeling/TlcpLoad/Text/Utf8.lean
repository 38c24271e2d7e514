/-! # UTF-8 on byte lists

Text travels as bytes. This module encodes characters as UTF-8, reads UTF-8 back strictly
(`decode?`), and reads it leniently (`decodeLossy`), where each invalid stretch becomes one
replacement character U+FFFD.

The lenient reader replaces a *maximal subpart*: the longest prefix that could still begin a
well-formed sequence, or else a single byte (Unicode §3.9, "U+FFFD substitution of maximal
subparts"). Both readers share one step, `Utf8.step`, so they agree on every valid input. -/

namespace TlcpLoad.Utf8

/-! ## Encoding -/

/-- The UTF-8 bytes of one character: one to four bytes, by the size of its code point. -/
def encodeChar (c : Char) : List UInt8 :=
  let n := c.toNat
  if n < 0x80 then
    [n.toUInt8]
  else if n < 0x800 then
    [(0xC0 + n / 64).toUInt8, (0x80 + n % 64).toUInt8]
  else if n < 0x10000 then
    [(0xE0 + n / 4096).toUInt8, (0x80 + n / 64 % 64).toUInt8, (0x80 + n % 64).toUInt8]
  else
    [(0xF0 + n / 262144).toUInt8, (0x80 + n / 4096 % 64).toUInt8,
      (0x80 + n / 64 % 64).toUInt8, (0x80 + n % 64).toUInt8]

/-- The UTF-8 bytes of a character list. -/
def encode (cs : List Char) : List UInt8 :=
  cs.flatMap encodeChar

/-- The UTF-8 bytes of a string. -/
def ofString (s : String) : List UInt8 :=
  encode s.toList

@[simp] theorem encode_nil : encode [] = [] := rfl

@[simp] theorem encode_cons (c : Char) (cs : List Char) :
    encode (c :: cs) = encodeChar c ++ encode cs := rfl

theorem encode_append (a b : List Char) : encode (a ++ b) = encode a ++ encode b := by
  simp [encode]

/-! ## One decoding step -/

/-- A continuation byte has the bit pattern `10xxxxxx`. -/
def isCont (b : UInt8) : Bool :=
  0x80 ≤ b && b ≤ 0xBF

/-- The low six bits of a continuation byte. -/
def low6 (b : UInt8) : Nat :=
  b.toNat % 64

/-- Which second bytes may follow a three-byte lead. The ranges exclude overlong forms
    (after `E0`) and surrogates (after `ED`). -/
def secondOfThree (lead b : UInt8) : Bool :=
  if lead = 0xE0 then 0xA0 ≤ b && b ≤ 0xBF
  else if lead = 0xED then 0x80 ≤ b && b ≤ 0x9F
  else isCont b

/-- Which second bytes may follow a four-byte lead. The ranges exclude overlong forms
    (after `F0`) and code points above U+10FFFF (after `F4`). -/
def secondOfFour (lead b : UInt8) : Bool :=
  if lead = 0xF0 then 0x90 ≤ b && b ≤ 0xBF
  else if lead = 0xF4 then 0x80 ≤ b && b ≤ 0x8F
  else isCont b

/-- What one step reads: a character, or an invalid stretch that is written as U+FFFD. -/
inductive Piece where
  | char (c : Char)
  | invalid
  deriving DecidableEq, Repr

/-- Reads one piece from a lead byte `b` and the bytes after it. It returns the piece and
    the unread rest, which is a suffix of `rest`. An invalid stretch is the lead byte with
    the continuation bytes that still fit a well-formed sequence. -/
def step (b : UInt8) (rest : List UInt8) : Piece × List UInt8 :=
  if b < 0x80 then
    (.char (Char.ofNat b.toNat), rest)
  else if 0xC2 ≤ b ∧ b ≤ 0xDF then
    match rest with
    | c1 :: r1 =>
      if isCont c1 then (.char (Char.ofNat ((b.toNat - 0xC0) * 64 + low6 c1)), r1)
      else (.invalid, rest)
    | [] => (.invalid, [])
  else if 0xE0 ≤ b ∧ b ≤ 0xEF then
    match rest with
    | c1 :: r1 =>
      if secondOfThree b c1 then
        match r1 with
        | c2 :: r2 =>
          if isCont c2 then
            (.char (Char.ofNat ((b.toNat - 0xE0) * 4096 + low6 c1 * 64 + low6 c2)), r2)
          else (.invalid, r1)
        | [] => (.invalid, [])
      else (.invalid, rest)
    | [] => (.invalid, [])
  else if 0xF0 ≤ b ∧ b ≤ 0xF4 then
    match rest with
    | c1 :: r1 =>
      if secondOfFour b c1 then
        match r1 with
        | c2 :: r2 =>
          if isCont c2 then
            match r2 with
            | c3 :: r3 =>
              if isCont c3 then
                (.char (Char.ofNat ((b.toNat - 0xF0) * 262144 + low6 c1 * 4096
                  + low6 c2 * 64 + low6 c3)), r3)
              else (.invalid, r2)
            | [] => (.invalid, [])
          else (.invalid, r1)
        | [] => (.invalid, [])
      else (.invalid, rest)
    | [] => (.invalid, [])
  else
    (.invalid, rest)

/-- A step never reads past the end: what it leaves is at most what followed the lead byte. -/
theorem step_rest_length (b : UInt8) (rest : List UInt8) :
    (step b rest).2.length ≤ rest.length := by
  unfold step
  repeat' split
  all_goals simp_all <;> omega

/-! ## Decoding -/

/-- Strict decoding: the characters of a well-formed UTF-8 byte list, or `none`. -/
def decode? : List UInt8 → Option (List Char)
  | [] => some []
  | b :: rest =>
    match h : step b rest with
    | (.char c, r) =>
      have : r.length ≤ rest.length := by
        have := step_rest_length b rest; rw [h] at this; exact this
      (decode? r).map (c :: ·)
    | (.invalid, _) => none
termination_by bs => bs.length
decreasing_by all_goals simp only [List.length_cons]; omega

/-- Lenient decoding: every invalid stretch becomes one U+FFFD. -/
def decodeLossy : List UInt8 → List Char
  | [] => []
  | b :: rest =>
    match h : step b rest with
    | (p, r) =>
      have : r.length ≤ rest.length := by
        have := step_rest_length b rest; rw [h] at this; exact this
      (match p with
        | .char c => c
        | .invalid => '�') :: decodeLossy r
termination_by bs => bs.length
decreasing_by all_goals simp only [List.length_cons]; omega

/-- The string of a well-formed UTF-8 byte list. -/
def toString? (bs : List UInt8) : Option String :=
  (decode? bs).map String.ofList

/-- The string of a byte list, with each invalid stretch written as U+FFFD. -/
def toStringLossy (bs : List UInt8) : String :=
  String.ofList (decodeLossy bs)

end TlcpLoad.Utf8
