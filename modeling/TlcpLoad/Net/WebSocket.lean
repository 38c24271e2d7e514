import TlcpLoad.Digest.Sha1
import TlcpLoad.Text.Base64
import TlcpLoad.Text.Utf8
import TlcpLoad.Text.Blank
import TlcpLoad.Net.Cookie
import TlcpLoad.Client.Error

/-! # WebSocket framing and handshake

RFC 6455 pieces that the client writes by hand:

* `acceptKey`: the `Sec-WebSocket-Accept` value that proves the server read the client's key:
  Base64 of the SHA-1 of the key followed by the GUID of §1.3.
* `encodeFrame`: a client text frame, final, masked with the all-zero key so that the payload
  goes out unchanged. The length uses the shortest of the three encodings of §5.2.
* `checkUpgrade`: accepts a handshake response only if its status is 101 and its
  `Sec-WebSocket-Accept` header carries the expected value; of several such headers the last
  decides. The `Set-Cookie` values of a response with status 101 go to the cookie jar whether
  it is accepted or not. -/

namespace TlcpLoad.WebSocket

/-- The GUID of RFC 6455 §1.3. -/
def guid : String := "258EAFA5-E914-47DA-95CA-C5AB0DC85B11"

/-- The accept value for a client key. -/
def acceptKey (key : String) : String :=
  Base64.encode (Sha1.digest (Utf8.ofString key ++ Utf8.ofString guid))

/-- The big-endian bytes of `n` in `width` bytes. -/
def bigEndian (width n : Nat) : List UInt8 :=
  (List.range width).reverse.map fun i => (n / Nat.pow 2 (8 * i) % 256).toUInt8

/-- The bytes before the payload: opcode, mask bit with length, and the zero mask. -/
def frameHead (len : Nat) : List UInt8 :=
  let lengthBytes :=
    if len ≤ 125 then [(0x80 + len).toUInt8]
    else if len ≤ 65535 then 0xFE :: bigEndian 2 len
    else 0xFF :: bigEndian 8 len
  0x81 :: lengthBytes ++ [0, 0, 0, 0]

/-- A masked final text frame with the zero mask. -/
def encodeFrame (payload : List UInt8) : List UInt8 :=
  frameHead payload.length ++ payload

/-- The pieces of a character list between its CR LF pairs, taken from the left. -/
def splitCrLf : List Char → List (List Char)
  | [] => [[]]
  | '\r' :: '\n' :: rest => [] :: splitCrLf rest
  | c :: rest => (splitCrLf rest).modifyHead (c :: ·)

/-- The lines of a text split at CR LF. -/
def crlfLines (s : String) : List String :=
  (splitCrLf s.toList).map String.ofList

example : crlfLines "a\r\r\nb\r\n" = ["a\r", "b", ""] := by decide

/-- Reads one header line into what the handshake said so far: whether the last accept
    header carried the expected value, and the cookies set, latest first. -/
def scanHeader (expected : String) (acc : Bool × List String) (line : String) :
    Bool × List String :=
  match splitOnce line ':' with
  | some (name, value) =>
    let name := asciiLower (Blank.trimString name)
    let value := Blank.trimString value
    if name = "sec-websocket-accept" then (value == expected, acc.2)
    else if name = "set-cookie" then (acc.1, value :: acc.2)
    else acc
  | none => acc

/-- The first line of a text, without its line end. -/
def firstLine (s : String) : String :=
  let line := s.toList.takeWhile (· ≠ '\n')
  String.ofList (if line.getLast? = some '\r' then line.dropLast else line)

/-- What checking a handshake response gives: the `Set-Cookie` values handed to the cookie
    jar, in the order of their headers, and whether the response is accepted. -/
structure UpgradeReply where
  cookies : List String
  verdict : Except ClientError Unit

/-- Checks a handshake response for a client key. The cookies of a response with status 101
    are handed over while its headers are read, so one refused for its accept value still
    sets them. -/
def checkUpgrade (response key : String) : UpgradeReply :=
  match crlfLines response with
  | [] => ⟨[], .error (.transport ("WebSocket upgrade refused: " ++ firstLine response))⟩
  | status :: headers =>
    if (Blank.wordsOf status)[1]? ≠ some "101" then
      ⟨[], .error (.transport ("WebSocket upgrade refused: " ++ firstLine response))⟩
    else
      let (accepted, cookies) := headers.foldl (scanHeader (acceptKey key)) (false, [])
      ⟨cookies.reverse,
        if accepted then .ok () else .error (.transport "invalid Sec-WebSocket-Accept")⟩

/-- The accept value of the sample handshake of §1.3. -/
theorem acceptKey_rfc_sample :
    acceptKey "dGhlIHNhbXBsZSBub25jZQ==" = "s3pPLMBiTxaQ9kYGzzhZRbK+xOo=" := by
  decide +kernel

end TlcpLoad.WebSocket
