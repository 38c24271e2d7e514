import TlcpLoad.Json.Value
import TlcpLoad.Text.Utf8
import TlcpLoad.Decimal.Numeral

/-! # Reading JSON text

`Json.parse` reads one JSON value, with blanks around it, from a text. A failure names its
cause and the place where it was found, as `line L column C`: lines count from 1, columns
count the bytes of the line before the place.

Where a failure is found depends on how far the reader got:

* a failure found on consuming a byte is placed after that byte (`JsonError.after`);
* a failure found on looking at the next byte without consuming it is placed after that
  byte too, but never past the end (`JsonError.atPeek`).

Numbers keep their kind (`JsonNumber`). A fraction or exponent is computed from the integer
of all digits, at most 19 of them, and a power of ten: `m · 10^e` is `m` times `10^e` for
`e ≥ 0` and `m` divided by `10^-e` otherwise, steps of `10^308` first when `|e|` exceeds 308.
Further digits past the 64-bit range are dropped. A result that overflows is refused. Nesting
deeper than 127 arrays and objects is refused. -/

namespace TlcpLoad

/-- The causes of a failure to read JSON text. -/
inductive JsonErrorCode where
  | eofInList
  | eofInObject
  | eofInString
  | eofInValue
  | expectedColon
  | expectedListCommaOrEnd
  | expectedObjectCommaOrEnd
  | expectedIdent
  | expectedValue
  | invalidEscape
  | invalidNumber
  | numberOutOfRange
  | invalidCodePoint
  | controlCharInString
  | keyMustBeString
  | loneSurrogate
  | trailingComma
  | trailingCharacters
  | unexpectedEndOfEscape
  | tooDeep
  deriving DecidableEq, Repr

/-- The text of a cause. -/
def JsonErrorCode.message : JsonErrorCode → String
  | .eofInList => "EOF while parsing a list"
  | .eofInObject => "EOF while parsing an object"
  | .eofInString => "EOF while parsing a string"
  | .eofInValue => "EOF while parsing a value"
  | .expectedColon => "expected `:`"
  | .expectedListCommaOrEnd => "expected `,` or `]`"
  | .expectedObjectCommaOrEnd => "expected `,` or `\x7d`"
  | .expectedIdent => "expected ident"
  | .expectedValue => "expected value"
  | .invalidEscape => "invalid escape"
  | .invalidNumber => "invalid number"
  | .numberOutOfRange => "number out of range"
  | .invalidCodePoint => "invalid unicode code point"
  | .controlCharInString => "control character (\\u0000-\\u001F) found while parsing a string"
  | .keyMustBeString => "key must be a string"
  | .loneSurrogate => "lone leading surrogate in hex escape"
  | .trailingComma => "trailing comma"
  | .trailingCharacters => "trailing characters"
  | .unexpectedEndOfEscape => "unexpected end of hex escape"
  | .tooDeep => "recursion limit exceeded"

/-- A failure to read JSON text: its cause, and the byte offset where it is placed. -/
structure JsonError where
  code : JsonErrorCode
  offset : Nat
  deriving DecidableEq, Repr

/-- The line and column of a byte offset in a text. -/
def lineColumn (bytes : List UInt8) (offset : Nat) : Nat × Nat :=
  let before := bytes.take offset
  let lineStart := before.length - (before.reverse.takeWhile (· != 0x0A)).length
  (1 + (before.take lineStart).count 0x0A, offset - lineStart)

/-- The text of a failure to read `bytes`. -/
def JsonError.message (bytes : List UInt8) (e : JsonError) : String :=
  let (line, column) := lineColumn bytes e.offset
  e.code.message ++ " at line " ++ Numeral.natText line ++ " column " ++ Numeral.natText column

namespace JsonReader

/-- What is left to read: the bytes, the offset of the first, and the text's length. -/
structure Cursor where
  rest : List UInt8
  offset : Nat
  total : Nat

/-- The cursor after one byte. -/
def Cursor.advance (c : Cursor) : Cursor :=
  { c with rest := c.rest.drop 1, offset := c.offset + 1 }

/-- A failure placed at the cursor, after the bytes consumed so far. -/
def Cursor.fail {α : Type} (c : Cursor) (code : JsonErrorCode) : Except JsonError α :=
  .error ⟨code, c.offset⟩

/-- A failure placed after the next byte, which was looked at but not consumed. -/
def Cursor.failPeek {α : Type} (c : Cursor) (code : JsonErrorCode) : Except JsonError α :=
  .error ⟨code, min c.total (c.offset + 1)⟩

/-- Skips blanks: space, line feed, tab and carriage return. -/
def skipBlanks (c : Cursor) : Cursor :=
  let n := (c.rest.takeWhile fun b => b == 0x20 || b == 0x0A || b == 0x09 || b == 0x0D).length
  { c with rest := c.rest.drop n, offset := c.offset + n }

/-- Reads the rest of a keyword after its first byte. -/
def readWord (c : Cursor) : List UInt8 → Except JsonError Cursor
  | [] => .ok c
  | w :: ws =>
    match c.rest with
    | [] => c.fail .eofInValue
    | b :: _ => if b == w then readWord c.advance ws else c.advance.fail .expectedIdent

/-! ## Numbers -/

/-- Whether `acc * 10 + d` leaves the 64-bit range. -/
def overflows (acc d : Nat) : Bool :=
  acc * 10 + d ≥ Nat.pow 2 64

/-- The double nearest `m`, scaled by `10^e` as described in the module header. -/
def scale (m : Nat) (e : Int) : Option Float :=
  let rec go (fuel : Nat) (f : Float) (e : Int) : Option Float :=
    if e.natAbs ≤ 308 then
      let pow := Float.ofScientific 1 false e.natAbs
      if e ≥ 0 then
        let r := f * pow
        if r.isInf then none else some r
      else some (f / pow)
    else if f == 0 then some f
    else if e ≥ 0 then none
    else match fuel with
      | 0 => some 0
      | fuel + 1 => go fuel (f / 1e308) (e + 308)
  go 64 (Float.ofNat m) e

/-- Applies the sign to a double. -/
def signed (positive : Bool) (x : Float) : Float :=
  if positive then x else -x

/-- Digits of the exponent after `e` and its sign; stops at the first non-digit. When the
    exponent leaves the 32-bit range, `none` is returned with the cursor right after the
    digit that made it leave. -/
def exponentDigits (c : Cursor) (acc : Nat) : Nat → Cursor × Option Nat
  | 0 => (c, some acc)
  | fuel + 1 =>
    match c.rest with
    | b :: _ =>
      match Numeral.digitValue? b with
      | some d =>
        if acc * 10 + d ≥ Nat.pow 2 31 then (c.advance, none)
        else exponentDigits c.advance (acc * 10 + d) fuel
      | none => (c, some acc)
    | [] => (c, some acc)

/-- Skips the digits at the cursor. -/
def skipDigits (c : Cursor) : Cursor :=
  let n := (c.rest.takeWhile fun b => (Numeral.digitValue? b).isSome).length
  { c with rest := c.rest.drop n, offset := c.offset + n }

/-- Reads an exponent: `c` is at the `e`. -/
def readExponent (c : Cursor) (positive : Bool) (m : Nat) (start : Int) :
    Except JsonError (JsonNumber × Cursor) :=
  let c := c.advance
  let (expPositive, c) := match c.rest with
    | 0x2B :: _ => (true, c.advance)
    | 0x2D :: _ => (false, c.advance)
    | _ => (true, c)
  match c.rest with
  | [] => c.fail .eofInValue
  | b :: _ =>
    match Numeral.digitValue? b with
    | none => c.advance.fail .invalidNumber
    | some d =>
      match exponentDigits c.advance d c.total with
      | (c, none) =>
        -- an exponent too large for 32 bits: an error for a positive one with digits that
        -- are not all zero, else zero once the remaining digits are skipped
        if m != 0 && expPositive then c.fail .numberOutOfRange
        else .ok (.float (signed positive 0), skipDigits c)
      | (c, some n) =>
        let e := if expPositive then start + n else start - n
        match scale m e with
        | some x => .ok (.float (signed positive x), c)
        | none => c.fail .numberOutOfRange

/-- Reads digits after a decimal point, into `m` and the exponent `e`, until a non-digit or
    the 64-bit limit, after which further digits are skipped. -/
def fractionDigits (c : Cursor) (m : Nat) (e : Int) (seen : Nat) : Nat → Cursor × Nat × Int × Nat
  | 0 => (c, m, e, seen)
  | fuel + 1 =>
    match c.rest with
    | b :: _ =>
      match Numeral.digitValue? b with
      | some d =>
        if overflows m d then
          let n := (c.rest.takeWhile fun b => (Numeral.digitValue? b).isSome).length
          ({ c with rest := c.rest.drop n, offset := c.offset + n }, m, e, seen + n)
        else fractionDigits c.advance (m * 10 + d) (e - 1) (seen + 1) fuel
      | none => (c, m, e, seen)
    | [] => (c, m, e, seen)

/-- Reads a fraction: `c` is at the point. -/
def readFraction (c : Cursor) (positive : Bool) (m : Nat) (start : Int) :
    Except JsonError (JsonNumber × Cursor) :=
  let c := c.advance
  let (c, m, e, seen) := fractionDigits c m start 0 c.total
  if seen = 0 then
    match c.rest with
    | [] => c.failPeek .eofInValue
    | _ => c.failPeek .invalidNumber
  else
    match c.rest with
    | b :: _ =>
      if b == 0x65 || b == 0x45 then readExponent c positive m e
      else match scale m e with
        | some x => .ok (.float (signed positive x), c)
        | none => c.fail .numberOutOfRange
    | [] =>
      match scale m e with
      | some x => .ok (.float (signed positive x), c)
      | none => c.fail .numberOutOfRange

/-- What follows the integer digits `m` of a number: a fraction, an exponent, or nothing. -/
def afterInteger (c : Cursor) (positive : Bool) (m : Nat) (e : Int) (long : Bool) :
    Except JsonError (JsonNumber × Cursor) :=
  match c.rest with
  | 0x2E :: _ => readFraction c positive m e
  | 0x65 :: _ | 0x45 :: _ => readExponent c positive m e
  | _ =>
    if long then
      match scale m e with
      | some x => .ok (.float (signed positive x), c)
      | none => c.fail .numberOutOfRange
    else if positive then .ok (.nat m, c)
    else if m = 0 ∨ m > Nat.pow 2 63 then .ok (.float (-(Float.ofNat m)), c)
    else .ok (.neg (-(m : Int)), c)

/-- Integer digits after the first: `m` so far. Past the 64-bit range, further digits only
    raise the exponent. -/
def integerDigits (c : Cursor) (m : Nat) (e : Int) (long : Bool) : Nat → Cursor × Nat × Int × Bool
  | 0 => (c, m, e, long)
  | fuel + 1 =>
    match c.rest with
    | b :: _ =>
      match Numeral.digitValue? b with
      | some d =>
        if long then integerDigits c.advance m (e + 1) true fuel
        else if overflows m d then integerDigits c.advance m (e + 1) true fuel
        else integerDigits c.advance (m * 10 + d) e false fuel
      | none => (c, m, e, long)
    | [] => (c, m, e, long)

/-- Reads a number after its optional minus sign. -/
def readNumber (c : Cursor) (positive : Bool) : Except JsonError (JsonNumber × Cursor) :=
  match c.rest with
  | [] => c.fail .eofInValue
  | b :: _ =>
    match Numeral.digitValue? b with
    | none => c.advance.fail .invalidNumber
    | some 0 =>
      let c := c.advance
      match c.rest with
      | b :: _ =>
        if (Numeral.digitValue? b).isSome then c.failPeek .invalidNumber
        else afterInteger c positive 0 0 false
      | [] => afterInteger c positive 0 0 false
    | some d =>
      let (c, m, e, long) := integerDigits c.advance d 0 false c.total
      afterInteger c positive m e long

/-! ## Strings -/

/-- The value of a hexadecimal digit byte. -/
def hexValue? (b : UInt8) : Option Nat :=
  if 0x30 ≤ b ∧ b ≤ 0x39 then some (b.toNat - 0x30)
  else if 0x61 ≤ b ∧ b ≤ 0x66 then some (b.toNat - 0x61 + 10)
  else if 0x41 ≤ b ∧ b ≤ 0x46 then some (b.toNat - 0x41 + 10)
  else none

/-- Reads the four hexadecimal digits of a `\u` escape. -/
def readHex4 (c : Cursor) : Except JsonError (Nat × Cursor) :=
  match c.rest with
  | a :: b :: d :: e :: _ =>
    let c' := { c with rest := c.rest.drop 4, offset := c.offset + 4 }
    match hexValue? a, hexValue? b, hexValue? d, hexValue? e with
    | some a, some b, some d, some e => .ok (((a * 16 + b) * 16 + d) * 16 + e, c')
    | _, _, _, _ => c'.fail .invalidEscape
  | _ => { c with rest := [], offset := c.total }.fail .eofInString

/-- Reads an escape after its backslash; returns the bytes it stands for. -/
def readEscape (c : Cursor) : Except JsonError (List UInt8 × Cursor) :=
  match c.rest with
  | [] => c.fail .eofInString
  | b :: _ =>
    let c := c.advance
    if b == 0x22 then .ok ([0x22], c)
    else if b == 0x5C then .ok ([0x5C], c)
    else if b == 0x2F then .ok ([0x2F], c)
    else if b == 0x62 then .ok ([0x08], c)
    else if b == 0x66 then .ok ([0x0C], c)
    else if b == 0x6E then .ok ([0x0A], c)
    else if b == 0x72 then .ok ([0x0D], c)
    else if b == 0x74 then .ok ([0x09], c)
    else if b == 0x75 then
      match readHex4 c with
      | .error e => .error e
      | .ok (n, c) =>
        if 0xDC00 ≤ n ∧ n ≤ 0xDFFF then c.fail .loneSurrogate
        else if 0xD800 ≤ n ∧ n ≤ 0xDBFF then
          match c.rest with
          | [] => c.fail .eofInString
          | 0x5C :: _ =>
            let c := c.advance
            match c.rest with
            | [] => c.fail .eofInString
            | 0x75 :: _ =>
              match readHex4 c.advance with
              | .error e => .error e
              | .ok (n2, c) =>
                if 0xDC00 ≤ n2 ∧ n2 ≤ 0xDFFF then
                  let cp := (n - 0xD800) * 1024 + (n2 - 0xDC00) + 0x10000
                  .ok (Utf8.encodeChar (Char.ofNat cp), c)
                else c.fail .loneSurrogate
            | _ => c.advance.fail .unexpectedEndOfEscape
          | _ => c.advance.fail .unexpectedEndOfEscape
        else .ok (Utf8.encodeChar (Char.ofNat n), c)
    else c.fail .invalidEscape

/-- Reads the bytes of a string up to its closing quote; `c` is after the opening quote. -/
def readStringBytes (c : Cursor) (acc : List UInt8) : Nat → Except JsonError (List UInt8 × Cursor)
  | 0 => c.fail .eofInString
  | fuel + 1 =>
    match c.rest with
    | [] => c.fail .eofInString
    | b :: _ =>
      if b == 0x22 then .ok (acc.reverse, c.advance)
      else if b == 0x5C then
        match readEscape c.advance with
        | .error e => .error e
        | .ok (bs, c) => readStringBytes c (bs.reverse ++ acc) fuel
      else if b < 0x20 then c.advance.fail .controlCharInString
      else readStringBytes c.advance (b :: acc) fuel

/-- Reads a string; `c` is after the opening quote. -/
def readString (c : Cursor) : Except JsonError (String × Cursor) :=
  match readStringBytes c [] (c.total + 1) with
  | .error e => .error e
  | .ok (bs, c) => .ok (Utf8.toStringLossy bs, c)

/-! ## Values -/

mutual

/-- Reads one value, after blanks. `depth` counts the arrays and objects that may still be
    opened; `fuel` bounds the calls and is never the limit for a text of its length. -/
def readValue (c : Cursor) (depth : Nat) : Nat → Except JsonError (Json × Cursor)
  | 0 => c.fail .eofInValue
  | fuel + 1 =>
    let c := skipBlanks c
    match c.rest with
    | [] => c.failPeek .eofInValue
    | b :: _ =>
      if b == 0x6E then (readWord c.advance [0x75, 0x6C, 0x6C]).map fun c => (.null, c)
      else if b == 0x74 then (readWord c.advance [0x72, 0x75, 0x65]).map fun c => (.bool true, c)
      else if b == 0x66 then
        (readWord c.advance [0x61, 0x6C, 0x73, 0x65]).map fun c => (.bool false, c)
      else if b == 0x2D then (readNumber c.advance false).map fun (n, c) => (.number n, c)
      else if 0x30 ≤ b ∧ b ≤ 0x39 then (readNumber c true).map fun (n, c) => (.number n, c)
      else if b == 0x22 then (readString c.advance).map fun (s, c) => (.string s, c)
      else if b == 0x5B then
        if depth ≤ 1 then c.failPeek .tooDeep
        else
          match readItems c.advance (depth - 1) true [] fuel with
          | .error e => .error e
          | .ok (items, c) => .ok (.array items, c)
      else if b == 0x7B then
        if depth ≤ 1 then c.failPeek .tooDeep
        else
          match readEntries c.advance (depth - 1) true [] fuel with
          | .error e => .error e
          | .ok (entries, c) => .ok (.object entries, c)
      else c.failPeek .expectedValue

/-- Reads the items of an array up to and with its closing bracket. -/
def readItems (c : Cursor) (depth : Nat) (first : Bool) (acc : List Json) :
    Nat → Except JsonError (List Json × Cursor)
  | 0 => c.fail .eofInList
  | fuel + 1 =>
    let c := skipBlanks c
    match c.rest with
    | [] => c.failPeek .eofInList
    | b :: _ =>
      if b == 0x5D then .ok (acc.reverse, c.advance)
      else
        let next : Except JsonError Cursor :=
          if b == 0x2C && !first then .ok (skipBlanks c.advance)
          else if first then .ok c
          else c.failPeek .expectedListCommaOrEnd
        match next with
        | .error e => .error e
        | .ok c =>
          match c.rest with
          | [] => c.failPeek .eofInValue
          | 0x5D :: _ => c.failPeek .trailingComma
          | _ =>
            match readValue c depth fuel with
            | .error e => .error e
            | .ok (v, c) => readItems c depth false (v :: acc) fuel

/-- Reads the entries of an object up to and with its closing brace. -/
def readEntries (c : Cursor) (depth : Nat) (first : Bool) (acc : List (String × Json)) :
    Nat → Except JsonError (List (String × Json) × Cursor)
  | 0 => c.fail .eofInObject
  | fuel + 1 =>
    let c := skipBlanks c
    match c.rest with
    | [] => c.failPeek .eofInObject
    | b :: _ =>
      if b == 0x7D then .ok (acc, c.advance)
      else
        let next : Except JsonError Cursor :=
          if b == 0x2C && !first then .ok (skipBlanks c.advance)
          else if first then .ok c
          else c.failPeek .expectedObjectCommaOrEnd
        match next with
        | .error e => .error e
        | .ok c =>
          match c.rest with
          | [] => c.failPeek .eofInValue
          | 0x7D :: _ => c.failPeek .trailingComma
          | 0x22 :: _ =>
            match readString c.advance with
            | .error e => .error e
            | .ok (key, c) =>
              let c := skipBlanks c
              match c.rest with
              | [] => c.failPeek .eofInObject
              | 0x3A :: _ =>
                match readValue c.advance depth fuel with
                | .error e => .error e
                | .ok (v, c) => readEntries c depth false (Json.insertEntry key v acc) fuel
              | _ => c.failPeek .expectedColon
          | _ => c.failPeek .keyMustBeString

end

end JsonReader

/-- Reads a JSON document: one value with blanks around it. -/
def Json.parseBytes (bytes : List UInt8) : Except JsonError Json :=
  let c : JsonReader.Cursor := ⟨bytes, 0, bytes.length⟩
  match JsonReader.readValue c 128 (2 * bytes.length + 2) with
  | .error e => .error e
  | .ok (v, c) =>
    let c := JsonReader.skipBlanks c
    match c.rest with
    | [] => .ok v
    | _ => c.failPeek .trailingCharacters

/-- Reads a JSON document from a text; a failure is given as its message. -/
def Json.parse (s : String) : Except String Json :=
  let bytes := Utf8.ofString s
  (Json.parseBytes bytes).mapError (JsonError.message bytes)

end TlcpLoad
