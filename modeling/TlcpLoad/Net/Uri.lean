import TlcpLoad.Net.PoolKey
import TlcpLoad.Text.Utf8
import TlcpLoad.Decimal.Numeral

/-! # Server URLs

A client is pointed at a server by a URL such as `http://push.example.com:8080`. The URL is
read as an absolute URI (`scheme://authority/path`), an authority alone (`host:port`), or a
path alone (`/path`), as follows; the first fault ends the reading.

* The empty text and texts of 65535 bytes or more are refused.
* A scheme is `http://` or `https://` in any ASCII case, or letters, digits, `+`, `-`, `.`,
  `~` (at most 64 of them) followed by `://`.
* The authority runs to the first `/`, `?` or `#`. It holds only URI characters, at most one
  port colon outside brackets, balanced brackets, nothing after a final `@`, and no `%` outside
  the user part. With a scheme, it must not be empty; without one, it must be the whole text.
* A path and query hold only the characters that may stand unescaped in them.

`PoolKey.ofUrl` then takes the scheme (`http`/`ws` plain, `https`/`wss` with TLS), the host,
and the port, which defaults to 80 or 443 when absent or not a 16-bit number. -/

namespace TlcpLoad

/-- Why a URL could not be read. -/
inductive UriError where
  | invalidUriChar
  | invalidAuthority
  | invalidFormat
  | tooLong
  | empty
  | schemeTooLong
  deriving DecidableEq, Repr

/-- The text of a URL fault. -/
def UriError.message : UriError → String
  | .invalidUriChar => "invalid uri character"
  | .invalidAuthority => "invalid authority"
  | .invalidFormat => "invalid format"
  | .tooLong => "uri too long"
  | .empty => "empty string"
  | .schemeTooLong => "scheme too long"

/-- The parts of a URL that a client uses. -/
structure Uri where
  scheme : Option String
  authority : String
  deriving DecidableEq, Repr

namespace Uri

/-- Bytes that may appear in an authority or path: ASCII letters, digits and
    ``!#$&'()*+,-./:;=?@[]_~``. -/
def isUriByte (b : UInt8) : Bool :=
  (0x30 ≤ b && b ≤ 0x39) || (0x41 ≤ b && b ≤ 0x5A) || (0x61 ≤ b && b ≤ 0x7A)
    || [0x21, 0x23, 0x24, 0x26, 0x27, 0x28, 0x29, 0x2A, 0x2B, 0x2C, 0x2D, 0x2E, 0x2F, 0x3A,
        0x3B, 0x3D, 0x3F, 0x40, 0x5B, 0x5D, 0x5F, 0x7E].contains b

/-- Bytes that may appear in a scheme: ASCII letters, digits, `+`, `-`, `.` and `~`. -/
def isSchemeByte (b : UInt8) : Bool :=
  (0x30 ≤ b && b ≤ 0x39) || (0x41 ≤ b && b ≤ 0x5A) || (0x61 ≤ b && b ≤ 0x7A)
    || b == 0x2B || b == 0x2D || b == 0x2E || b == 0x7E

/-- The bytes of an ASCII text. -/
def asciiBytes (s : String) : List UInt8 :=
  s.toList.map fun c => c.toNat.toUInt8

/-- The ASCII lowercase of a byte. -/
def lowerByte (b : UInt8) : UInt8 :=
  if 0x41 ≤ b ∧ b ≤ 0x5A then b + 32 else b

/-- Whether `bs` starts with the ASCII text `p` in any case. -/
def startsWithCaseless (bs : List UInt8) (p : String) : Bool :=
  (asciiBytes p).isPrefixOf (bs.map lowerByte)

/-- The scheme at the start of a text and the length it takes with its `://`. -/
def readScheme (bs : List UInt8) : Except UriError (Option (String × Nat)) :=
  if startsWithCaseless bs "http://" then .ok (some ("http", 7))
  else if startsWithCaseless bs "https://" then .ok (some ("https", 8))
  else if bs.length > 3 then
    let name := bs.takeWhile isSchemeByte
    let rest := bs.drop name.length
    match rest with
    | 0x3A :: 0x2F :: 0x2F :: _ =>
      if name.length > 64 then .error .schemeTooLong
      else .ok (some (String.ofList (name.map fun b => Char.ofNat b.toNat), name.length + 3))
    | _ => .ok none
  else .ok none

/-- The state of the authority scan. -/
structure AuthorityScan where
  colons : Nat := 0
  openBracket : Bool := false
  closeBracket : Bool := false
  percent : Bool := false
  atSign : Option Nat := none

/-- Scans an authority up to its end; returns the end offset. -/
def scanAuthority (bs : List UInt8) : Except UriError Nat :=
  let rec go (i : Nat) (st : AuthorityScan) : List UInt8 → Except UriError (Nat × AuthorityScan)
    | [] => .ok (i, st)
    | b :: rest =>
      if b == 0x2F || b == 0x3F || b == 0x23 then .ok (i, st)
      else if b == 0x3A then
        if st.colons ≥ 8 then .error .invalidAuthority
        else go (i + 1) { st with colons := st.colons + 1 } rest
      else if b == 0x5B then
        if st.percent || st.openBracket then .error .invalidAuthority
        else go (i + 1) { st with openBracket := true } rest
      else if b == 0x5D then
        if !st.openBracket || st.closeBracket then .error .invalidAuthority
        else go (i + 1) { st with closeBracket := true, colons := 0, percent := false } rest
      else if b == 0x40 then
        go (i + 1) { st with atSign := some i, colons := 0, percent := false } rest
      else if b == 0x25 then go (i + 1) { st with percent := true } rest
      else if isUriByte b then go (i + 1) st rest
      else .error .invalidUriChar
  match go 0 {} bs with
  | .error e => .error e
  | .ok (stop, st) =>
    if st.openBracket != st.closeBracket then .error .invalidAuthority
    else if st.colons > 1 then .error .invalidAuthority
    else if stop > 0 ∧ st.atSign = some (stop - 1) then .error .invalidAuthority
    else if st.percent then .error .invalidAuthority
    else .ok stop

/-- Whether a byte may stand in a path. -/
def isPathByte (b : UInt8) : Bool :=
  b == 0x21 || (0x24 ≤ b && b ≤ 0x3B) || b == 0x3D || (0x40 ≤ b && b ≤ 0x5F)
    || (0x61 ≤ b && b ≤ 0x7A) || b == 0x7C || b == 0x7E || b == 0x22 || b == 0x7B || b == 0x7D

/-- Whether a byte may stand in a query. -/
def isQueryByte (b : UInt8) : Bool :=
  b == 0x21 || (0x24 ≤ b && b ≤ 0x3B) || b == 0x3D || (0x3F ≤ b && b ≤ 0x7E)

/-- Checks a path with its query; a `#` ends both. -/
def checkPath : Bool → List UInt8 → Except UriError Unit
  | _, [] => .ok ()
  | inQuery, b :: rest =>
    if b == 0x23 then .ok ()
    else if !inQuery && b == 0x3F then checkPath true rest
    else if (if inQuery then isQueryByte b else isPathByte b) then checkPath inQuery rest
    else .error .invalidUriChar

/-- The text of bytes known to be ASCII. -/
def textOf (bs : List UInt8) : String :=
  String.ofList (bs.map fun b => Char.ofNat b.toNat)

/-- Reads a URL. -/
def parse (url : String) : Except UriError Uri :=
  let bs := Utf8.ofString url
  if bs.length > 65534 then .error .tooLong
  else match bs with
  | [] => .error .empty
  | [b] =>
    if b == 0x2F || b == 0x2A then .ok ⟨none, ""⟩
    else match scanAuthority bs with
      | .error e => .error e
      | .ok stop => if stop ≠ 1 then .error .invalidUriChar else .ok ⟨none, textOf bs⟩
  | 0x2F :: _ => (checkPath false bs).map fun _ => ⟨none, ""⟩
  | _ =>
    match readScheme bs with
    | .error e => .error e
    | .ok none =>
      match scanAuthority bs with
      | .error e => .error e
      | .ok stop => if stop ≠ bs.length then .error .invalidFormat else .ok ⟨none, textOf bs⟩
    | .ok (some (scheme, skip)) =>
      let rest := bs.drop skip
      match scanAuthority rest with
      | .error e => .error e
      | .ok stop =>
        if stop = 0 then .error .invalidFormat
        else (checkPath false (rest.drop stop)).map fun _ => ⟨some scheme, textOf (rest.take stop)⟩

/-- The host of an authority: after the last `@`, up to `]` for a bracketed address, else
    up to the first `:`. -/
def host (authority : String) : String :=
  let cs := authority.toList
  let hostPort := cs.reverse.takeWhile (· ≠ '@') |>.reverse
  match hostPort with
  | '[' :: _ => String.ofList (hostPort.take (hostPort.idxOf ']' + 1))
  | _ => String.ofList (hostPort.takeWhile (· ≠ ':'))

/-- The port of an authority: the text after its last `:`, if it is a 16-bit numeral. -/
def port? (authority : String) : Option Nat :=
  let cs := authority.toList
  if cs.contains ':' then
    let after := cs.reverse.takeWhile (· ≠ ':') |>.reverse
    Numeral.readU16? (after.map fun c => c.toNat.toUInt8)
  else none

end Uri

/-- The destination of a server URL, in pool shard `shard`. -/
def PoolKey.ofUrl (url : String) (shard : Nat) : Except ClientError PoolKey :=
  match Uri.parse url with
  | .error e => .error (.config ("invalid server url " ++ Literal.quote url ++ ": " ++ e.message))
  | .ok uri =>
    let tls? : Option Bool := match uri.scheme with
      | some "http" | some "ws" => some false
      | some "https" | some "wss" => some true
      | _ => none
    match tls? with
    | none => .error (.config ("unsupported scheme in " ++ Literal.quote url))
    | some tls =>
      if uri.authority.isEmpty then .error (.config ("missing host in " ++ Literal.quote url))
      else
        let port := (Uri.port? uri.authority).getD (if tls then 443 else 80)
        .ok ⟨Uri.host uri.authority, port, tls, shard⟩

end TlcpLoad
