import TlcpLoad.Config.Basic
import TlcpLoad.Json.Read
import TlcpLoad.Net.PoolKey
import TlcpLoad.Net.Cookie
import TlcpLoad.Net.Rotation
import TlcpLoad.Client.Options
import TlcpLoad.Load.Items

/-! # Checking a configuration

`ClientConfig.ofJsonText` reads a configuration from its text in three steps, each stopping
at its first fault: the text must be JSON (`Json.parse`), the object must fit the schema
(`validateRaw`), and its values must fit their fields (`ClientConfig.ofJson`). Then
`ClientConfig.check` tests the values against each other, in this order:

1. the protocol, in any ASCII case, is one of `http://`, `https://`, `ws://`, `wss://`;
2. at least one field and one item per session;
3. the server ports `port … port + serverPorts − 1` end at 65535 or below;
4. the first available item is not after the last, and neither is past `numberOfItems`;
5. the item range is not empty, and holds `itemsPerSession` items unless items are drawn at
   random.

A first or last item of 0 means "not set": the range then starts at 1 or ends at
`numberOfItems`. -/

namespace TlcpLoad

namespace ClientConfig

/-- The transport that the protocol asks for. -/
def transport (c : ClientConfig) : Except ClientError Transport :=
  let p := asciiLower c.protocol
  if p = "http://" ∨ p = "https://" then .ok .httpStreaming
  else if p = "ws://" ∨ p = "wss://" then .ok .wsStreaming
  else .error (.config ("unsupported protocol " ++ Literal.quote p))

/-- The first and last item that sessions may subscribe to, inclusive. -/
def itemRange (c : ClientConfig) : Nat × Nat :=
  let first := match c.firstItemAvailable with
    | some n => if n > 0 then n else 1
    | none => 1
  let last := match c.lastItemAvailable with
    | some n => if n > 0 then n else c.numberOfItems
    | none => c.numberOfItems
  (first, last)

/-- Fails with a configuration message when `cond` holds. -/
def failIf (cond : Bool) (message : String) : Except ClientError Unit :=
  if cond then .error (.config message) else .ok ()

/-- Tests the values against each other. -/
def check (c : ClientConfig) : Except ClientError Unit := do
  let _ ← c.transport
  failIf (c.numberOfFields = 0) "numberOfFields must be at least 1"
  failIf (c.itemsPerSession = 0) "itemsPerSession must be at least 1"
  failIf (c.port + (Nat.max c.serverPorts 1 - 1) > maxPort)
    ("serverPorts (" ++ Numeral.natText c.serverPorts ++ ") starting at port "
      ++ Numeral.natText c.port ++ " runs past port 65535")
  match c.firstItemAvailable, c.lastItemAvailable with
  | some first, some last =>
    failIf (last < first) "lastItemAvailable must not be smaller than firstItemAvailable"
  | _, _ => pure ()
  match c.firstItemAvailable with
  | some first =>
    failIf (first > c.numberOfItems) ("firstItemAvailable (" ++ Numeral.natText first
      ++ ") can't be greater than numberOfItems (" ++ Numeral.natText c.numberOfItems ++ ")")
  | none => pure ()
  match c.lastItemAvailable with
  | some last =>
    failIf (last > c.numberOfItems) ("lastItemAvailable (" ++ Numeral.natText last
      ++ ") can't be greater than numberOfItems (" ++ Numeral.natText c.numberOfItems ++ ")")
  | none => pure ()
  let (first, last) := c.itemRange
  failIf (last < first) "no items available"
  failIf (!c.itemRandomExtraction && last - first + 1 < c.itemsPerSession)
    "not enough items for itemsPerSession without itemRandomExtraction"

/-- Reads and checks a configuration from its JSON text. -/
def ofJsonText (text : String) : Except ClientError ClientConfig := do
  let raw ← (Json.parse text).mapError fun e => ClientError.config ("invalid JSON: " ++ e)
  validateRaw raw
  let c ← ClientConfig.ofJson raw
  c.check
  return c

/-- The server's URL: protocol, host and port. -/
def serverUrl (c : ClientConfig) : String :=
  c.protocol ++ c.host ++ ":" ++ Numeral.natText c.port

/-- The options of the client context that runs the load test. -/
def clientOptions (c : ClientConfig) : ClientOptions :=
  { ignoreData := c.ignoreData, lifo := c.lastRecentUsed, nPorts := Nat.max c.serverPorts 1,
    nInstances := Nat.max c.minCreatePool 1, rawSocket := c.useRawSocket }

/-- The items of session `id`, spread over the item range; only for configurations that do
    not draw items at random. -/
def itemsFor (c : ClientConfig) (id : Nat) : Except WordFault (List String) :=
  let (first, last) := c.itemRange
  (itemsAtSameDistance id first last c.itemsPerSession).map (·.map itemName)

end ClientConfig

end TlcpLoad
