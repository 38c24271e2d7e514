/-! # Decimal numerals

Counts and codes arrive as decimal numerals inside byte strings. A numeral is read strictly:

* an optional sign, `+` always and `-` only where negative values exist;
* then one or more ASCII digits, and nothing else: no blank, no `0x`, no exponent;
* the value must fit the target range, else the numeral is refused.

A sign alone is refused, and so is the empty text. Leading zeros are allowed. -/

namespace TlcpLoad.Numeral

/-- The value of an ASCII digit byte. -/
def digitValue? (b : UInt8) : Option Nat :=
  if 0x30 ≤ b ∧ b ≤ 0x39 then some (b.toNat - 0x30) else none

/-- The value of a digit run, read left to right on top of `acc`; `none` at a non-digit. -/
def digitsFrom (acc : Nat) : List UInt8 → Option Nat
  | [] => some acc
  | b :: rest => (digitValue? b).bind fun d => digitsFrom (acc * 10 + d) rest

/-- The value of a non-empty digit run. -/
def digits? : List UInt8 → Option Nat
  | [] => none
  | bs => digitsFrom 0 bs

/-- A numeral of a type without negative values, below `bound`. -/
def readNat? (bound : Nat) (bs : List UInt8) : Option Nat :=
  let unsigned := match bs with
    | 0x2B :: rest => rest
    | _ => bs
  (digits? unsigned).filter (· < bound)

/-- A numeral of a type with values from `-bound` to `bound - 1`. -/
def readInt? (bound : Nat) (bs : List UInt8) : Option Int :=
  match bs with
  | 0x2D :: rest => (digits? rest).bind fun n => if n ≤ bound then some (-(n : Int)) else none
  | 0x2B :: rest => (digits? rest).bind fun n => if n < bound then some (n : Int) else none
  | _ => (digits? bs).bind fun n => if n < bound then some (n : Int) else none

/-- Unsigned 16-bit numerals. -/
def readU16? (bs : List UInt8) : Option Nat := readNat? (Nat.pow 2 16) bs

/-- Unsigned 32-bit numerals. -/
def readU32? (bs : List UInt8) : Option Nat := readNat? (Nat.pow 2 32) bs

/-- Unsigned 64-bit numerals; machine-sized counts are 64-bit here too. -/
def readU64? (bs : List UInt8) : Option Nat := readNat? (Nat.pow 2 64) bs

/-- Signed 32-bit numerals. -/
def readI32? (bs : List UInt8) : Option Int := readInt? (Nat.pow 2 31) bs

/-- The decimal text of a natural number. -/
def natText (n : Nat) : String :=
  String.ofList (Nat.toDigits 10 n)

/-- The decimal text of an integer, with a minus sign when negative. -/
def intText (i : Int) : String :=
  if i < 0 then "-" ++ natText i.natAbs else natText i.natAbs

example : readU32? [0x2B, 0x37] = some 7 := by decide
example : readU32? [0x2B] = none := by decide
example : readU32? [0x2D, 0x31] = none := by decide
example : readI32? [0x2D, 0x30] = some 0 := by decide
example : readU32? [] = none := by decide

end TlcpLoad.Numeral
