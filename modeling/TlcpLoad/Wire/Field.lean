import TlcpLoad.Wire.Error
import TlcpLoad.Text.Utf8
import TlcpLoad.Decimal.Numeral

/-! # Field values and their codec

An update carries one value per field of the schema, in a compact text: the values are
separated by `|`, and each slot reads as follows.

* an empty slot: the field is unchanged since the last update;
* `#`: the field is null;
* `$`: the field is the empty text;
* `^` and a count `N`: the next `N` fields are unchanged, for `N` up to 65536;
* anything else: the text itself, percent-escaped.

A percent escape `%hh` stands for the byte with hexadecimal value `hh` (digits of either
case); the bytes of a text must be UTF-8. `quote` writes a text so that only ASCII letters,
digits and `-_.~` stand for themselves and every other byte is escaped with uppercase
digits, so no separator of the protocol can appear in it. -/

namespace TlcpLoad

/-- The value of one field in an update. -/
inductive FieldValue where
  /-- The field keeps its previous value. -/
  | unchanged
  /-- The field is null. -/
  | null
  /-- The field holds a text. -/
  | text (s : String)
  deriving DecidableEq, Repr

namespace FieldCodec

/-- The longest run of unchanged fields that one `^` slot may stand for. -/
def maxUnchangedRun : Nat := 65536

/-- The value of a hexadecimal digit byte at offset `pos`, or the failure naming it. -/
def hexDigit (pos : Nat) (b : UInt8) : Except DecodeError Nat :=
  if 0x30 ≤ b ∧ b ≤ 0x39 then .ok (b.toNat - 0x30)
  else if 0x61 ≤ b ∧ b ≤ 0x66 then .ok (b.toNat - 0x61 + 10)
  else if 0x41 ≤ b ∧ b ≤ 0x46 then .ok (b.toNat - 0x41 + 10)
  else .error (.invalidHex pos (Char.ofNat b.toNat))

/-- Replaces each escape `%hh` by its byte; `pos` is the offset of the first byte. -/
def unescape (pos : Nat) : List UInt8 → Except DecodeError (List UInt8)
  | [] => .ok []
  | b :: rest =>
    if b = 0x25 then
      match rest with
      | hi :: lo :: more =>
        match hexDigit (pos + 1) hi, hexDigit (pos + 2) lo with
        | .ok h, .ok l =>
          match unescape (pos + 3) more with
          | .ok out => .ok ((h * 16 + l).toUInt8 :: out)
          | .error e => .error e
        | .error e, _ => .error e
        | .ok _, .error e => .error e
      | _ => .error (.truncatedEscape pos)
    else
      match unescape (pos + 1) rest with
      | .ok out => .ok (b :: out)
      | .error e => .error e

/-- Reads a percent-escaped text. -/
def unquote (bs : List UInt8) : Except DecodeError String :=
  match unescape 0 bs with
  | .error e => .error e
  | .ok out =>
    match Utf8.toString? out with
    | some s => .ok s
    | none => .error .invalidUtf8

/-- Whether a byte stands for itself in a quoted text. -/
def isUnreserved (b : UInt8) : Bool :=
  (0x30 ≤ b && b ≤ 0x39) || (0x41 ≤ b && b ≤ 0x5A) || (0x61 ≤ b && b ≤ 0x7A)
    || b == 0x2D || b == 0x5F || b == 0x2E || b == 0x7E

/-- An uppercase hexadecimal digit. -/
def upperHex (n : Nat) : Char :=
  if n < 10 then Char.ofNat (0x30 + n) else Char.ofNat (0x41 + n - 10)

/-- How one byte is written in a quoted text. -/
def quoteByte (b : UInt8) : List Char :=
  if isUnreserved b then [Char.ofNat b.toNat]
  else ['%', upperHex (b.toNat / 16), upperHex (b.toNat % 16)]

/-- Writes a text with every byte other than ASCII letters, digits and `-_.~` escaped. -/
def quote (s : String) : String :=
  String.ofList ((Utf8.ofString s).flatMap quoteByte)

/-- Reads the count of a `^` slot. -/
def runLength (digits : List UInt8) : Except DecodeError Nat :=
  match (Numeral.readU64? digits).filter (· ≤ maxUnchangedRun) with
  | some n => .ok n
  | none => .error (.invalidNumber "unchanged run length" (Utf8.toStringLossy digits))

/-- The values of one slot. -/
def decodeSlot : List UInt8 → Except DecodeError (List FieldValue)
  | [] => .ok [.unchanged]
  | [0x23] => .ok [.null]
  | [0x24] => .ok [.text ""]
  | 0x5E :: digits => (runLength digits).map fun n => List.replicate n .unchanged
  | slot => (unquote slot).map fun s => [.text s]

/-- The values of the slots, left to right; the first failure stops the reading. -/
def decodeSlots : List (List UInt8) → Except DecodeError (List FieldValue)
  | [] => .ok []
  | slot :: rest =>
    match decodeSlot slot with
    | .error e => .error e
    | .ok vs =>
      match decodeSlots rest with
      | .error e => .error e
      | .ok more => .ok (vs ++ more)

end FieldCodec

/-- Reads the field values of an update payload. -/
def decodeFields (payload : List UInt8) : Except DecodeError (List FieldValue) :=
  FieldCodec.decodeSlots (payload.splitOn 0x7C)

example : (decodeFields [0x7C, 0x7C]).toOption = some [.unchanged, .unchanged, .unchanged] := by
  decide
example : FieldCodec.quote "a b" = "a%20b" := by decide

end TlcpLoad
