import TlcpLoad.Text.Literal
import TlcpLoad.Decimal.Numeral

/-! # Decoding failures

A frame or a field payload that cannot be read fails with one `DecodeError`, which names the
first fault found from the left. -/

namespace TlcpLoad

/-- Why a frame or a field payload could not be read. -/
inductive DecodeError where
  /-- The frame of kind `kind` ends before its field `field`. -/
  | missingField (kind field : String)
  /-- The field `field` holds `value`, which is no numeral of its type. -/
  | invalidNumber (field value : String)
  /-- A `%` at byte `pos` of a field has fewer than two bytes after it. -/
  | truncatedEscape (pos : Nat)
  /-- The byte at `pos`, shown as the character `digit`, is no hexadecimal digit. -/
  | invalidHex (pos : Nat) (digit : Char)
  /-- The bytes of a text are not UTF-8. -/
  | invalidUtf8
  deriving DecidableEq, Repr

/-- The kind of a decoding failure, as answers name it. -/
def DecodeError.kind : DecodeError → String
  | .missingField .. => "MissingField"
  | .invalidNumber .. => "InvalidNumber"
  | .truncatedEscape .. => "TruncatedEscape"
  | .invalidHex .. => "InvalidHex"
  | .invalidUtf8 => "InvalidUtf8"

/-- The text of a decoding failure. -/
def DecodeError.message : DecodeError → String
  | .missingField kind field => "missing field " ++ field ++ " in " ++ kind ++ " frame"
  | .invalidNumber field value => "invalid number " ++ Literal.quote value ++ " for " ++ field
  | .truncatedEscape pos => "truncated percent escape at byte " ++ Numeral.natText pos
  | .invalidHex pos digit =>
    "invalid hex digit " ++ Literal.quoteChar digit ++ " at byte " ++ Numeral.natText pos
  | .invalidUtf8 => "invalid utf-8 in field value"

end TlcpLoad
