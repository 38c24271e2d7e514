import TlcpLoad.Json.Value
import TlcpLoad.Decimal.Numeral
import TlcpLoad.Decimal.Text

/-! # Writing JSON text

`Json.compact` writes a value without blanks. Strings escape the quote, the backslash and
every control character below U+0020: backspace, form feed, line feed, carriage return and
tab by their short escapes, the others as `\u00xx` in lowercase hexadecimal. Every other
character stands for itself. Doubles use `FloatFormat.json`; a double without a decimal
(infinity, NaN) is written `null`. -/

namespace TlcpLoad.Json

/-- Two lowercase hexadecimal digits of a number below 256. -/
def hex2 (n : Nat) : List Char :=
  [Nat.digitChar (n / 16), Nat.digitChar (n % 16)]

/-- How a character is written inside a JSON string. -/
def escapeChar (c : Char) : List Char :=
  if c = '"' then ['\\', '"']
  else if c = '\\' then ['\\', '\\']
  else if c = '\n' then ['\\', 'n']
  else if c = '\r' then ['\\', 'r']
  else if c = '\t' then ['\\', 't']
  else if c.toNat = 8 then ['\\', 'b']
  else if c.toNat = 12 then ['\\', 'f']
  else if c.toNat < 0x20 then ['\\', 'u', '0', '0'] ++ hex2 c.toNat
  else [c]

/-- A string as a JSON string literal. -/
def quote (s : String) : String :=
  String.ofList ('"' :: s.toList.flatMap escapeChar ++ ['"'])

/-- The text of a number. -/
def numberText : JsonNumber → String
  | .nat n => Numeral.natText n
  | .neg n => Numeral.intText n
  | .float x =>
    match Decimal.ofFloat Decimal.FloatFormat.json.tie x with
    | some d => d.render .json
    | none => "null"

mutual

/-- A value as JSON text without blanks. -/
def compact : Json → String
  | .null => "null"
  | .bool true => "true"
  | .bool false => "false"
  | .number n => numberText n
  | .string s => quote s
  | .array items => "[" ++ ",".intercalate (compactItems items) ++ "]"
  | .object entries => "\x7b" ++ ",".intercalate (compactEntries entries) ++ "\x7d"

/-- The texts of the items of an array. -/
def compactItems : List Json → List String
  | [] => []
  | v :: vs => compact v :: compactItems vs

/-- The texts `"key":value` of the entries of an object. -/
def compactEntries : List (String × Json) → List String
  | [] => []
  | (k, v) :: rest => (quote k ++ ":" ++ compact v) :: compactEntries rest

end

example : compact (.array [.number (.nat 1), .string "a\n", .null]) = "[1,\"a\\n\",null]" := by
  decide +kernel

end TlcpLoad.Json
