import TlcpLoad.Config.Schema
import TlcpLoad.Decimal.Numeral

/-! # Configuration values

`ClientConfig` holds a load test's configuration with the types its values are used at:
the port a 16-bit number, counts of sessions, items and fields 32-bit numbers, durations
64-bit numbers. `ClientConfig.ofJson` builds it from a JSON object in which every key
already has its schema type (`validateRaw`). The entries are read in increasing order of
key, and the first that does not fit its field fails:

* a number too large for its field: `invalid value: integer `n`, expected u16`;
* a null where a boolean or a 64-bit number is required, since only text, integer and
  number fields of optional keys may be null: `invalid type: null, expected a boolean`.

A missing optional key takes its default; `lastRecentUsed` defaults to true, every other flag
to false, durations to 0, optional texts and numbers to none. -/

namespace TlcpLoad

/-- A load test configuration. -/
structure ClientConfig where
  protocol : String
  host : String
  port : Nat
  adapterSetName : String
  dataAdapterName : Option String := none
  user : Option String := none
  password : Option String := none
  numberOfSessions : Nat
  itemsPerSession : Nat
  itemRandomExtraction : Bool := false
  firstItemAvailable : Option Nat := none
  lastItemAvailable : Option Nat := none
  sessionDurationSeconds : Nat := 0
  delaySessionStartMillis : Nat := 0
  minCreatePool : Nat
  serverPorts : Nat
  lastRecentUsed : Bool := true
  ignoreData : Bool := false
  speedUpReading : Bool := false
  useRawSocket : Bool := false
  numberOfItems : Nat
  numberOfFields : Nat
  subscriptionMode : String
  unfilteredSubscription : Bool := false
  resamplingFrequency : Option Float := none
  resamplingBufferSize : Option Nat := none

namespace ConfigDecoder

/-- A failure to fit a value into a field. -/
def mismatch (message : String) : ClientError :=
  .config message

/-- A text. -/
def text (v : Json) : Except ClientError String :=
  match v with
  | .string s => .ok s
  | .null => .error (mismatch "invalid type: null, expected a string")
  | _ => .error (mismatch "invalid type: value, expected a string")

/-- An optional text: null is none. -/
def optText (v : Json) : Except ClientError (Option String) :=
  match v with
  | .null => .ok none
  | _ => (text v).map some

/-- An unsigned number of `bits` bits, named `type` in messages. -/
def unsigned (bits : Nat) (type : String) (v : Json) : Except ClientError Nat :=
  match v with
  | .number (.nat n) =>
    if n < Nat.pow 2 bits then .ok n
    else .error (mismatch ("invalid value: integer `" ++ Numeral.natText n ++ "`, expected " ++ type))
  | .null => .error (mismatch ("invalid type: null, expected " ++ type))
  | _ => .error (mismatch ("invalid type: value, expected " ++ type))

/-- An optional unsigned number: null is none. -/
def optUnsigned (bits : Nat) (type : String) (v : Json) : Except ClientError (Option Nat) :=
  match v with
  | .null => .ok none
  | _ => (unsigned bits type v).map some

/-- A boolean. -/
def flag (v : Json) : Except ClientError Bool :=
  match v with
  | .bool b => .ok b
  | .null => .error (mismatch "invalid type: null, expected a boolean")
  | _ => .error (mismatch "invalid type: value, expected a boolean")

/-- An optional double: null is none, any number is read as a double. -/
def optFloat (v : Json) : Except ClientError (Option Float) :=
  match v with
  | .null => .ok none
  | _ => match v.asFloat? with
    | some x => .ok (some x)
    | none => .error (mismatch "invalid type: value, expected f64")

/-- The fields read so far; mandatory ones start unset. -/
structure Partial where
  protocol : Option String := none
  host : Option String := none
  port : Option Nat := none
  adapterSetName : Option String := none
  dataAdapterName : Option String := none
  user : Option String := none
  password : Option String := none
  numberOfSessions : Option Nat := none
  itemsPerSession : Option Nat := none
  itemRandomExtraction : Bool := false
  firstItemAvailable : Option Nat := none
  lastItemAvailable : Option Nat := none
  sessionDurationSeconds : Nat := 0
  delaySessionStartMillis : Nat := 0
  minCreatePool : Option Nat := none
  serverPorts : Option Nat := none
  lastRecentUsed : Bool := true
  ignoreData : Bool := false
  speedUpReading : Bool := false
  useRawSocket : Bool := false
  numberOfItems : Option Nat := none
  numberOfFields : Option Nat := none
  subscriptionMode : Option String := none
  unfilteredSubscription : Bool := false
  resamplingFrequency : Option Float := none
  resamplingBufferSize : Option Nat := none

/-- Reads one entry into the fields; keys outside the configuration are ignored. -/
def readEntry (p : Partial) (entry : String × Json) : Except ClientError Partial :=
  let (key, v) := entry
  match key with
  | "protocol" => (text v).map fun x => { p with protocol := some x }
  | "host" => (text v).map fun x => { p with host := some x }
  | "port" => (unsigned 16 "u16" v).map fun x => { p with port := some x }
  | "adapterSetName" => (text v).map fun x => { p with adapterSetName := some x }
  | "dataAdapterName" => (optText v).map fun x => { p with dataAdapterName := x }
  | "user" => (optText v).map fun x => { p with user := x }
  | "password" => (optText v).map fun x => { p with password := x }
  | "numberOfSessions" => (unsigned 32 "u32" v).map fun x => { p with numberOfSessions := some x }
  | "itemsPerSession" => (unsigned 32 "u32" v).map fun x => { p with itemsPerSession := some x }
  | "itemRandomExtraction" => (flag v).map fun x => { p with itemRandomExtraction := x }
  | "firstItemAvailable" =>
    (optUnsigned 32 "u32" v).map fun x => { p with firstItemAvailable := x }
  | "lastItemAvailable" => (optUnsigned 32 "u32" v).map fun x => { p with lastItemAvailable := x }
  | "sessionDurationSeconds" =>
    (unsigned 64 "u64" v).map fun x => { p with sessionDurationSeconds := x }
  | "delaySessionStartMillis" =>
    (unsigned 64 "u64" v).map fun x => { p with delaySessionStartMillis := x }
  | "minCreatePool" => (unsigned 64 "usize" v).map fun x => { p with minCreatePool := some x }
  | "serverPorts" => (unsigned 64 "usize" v).map fun x => { p with serverPorts := some x }
  | "lastRecentUsed" => (flag v).map fun x => { p with lastRecentUsed := x }
  | "ignoreData" => (flag v).map fun x => { p with ignoreData := x }
  | "speedUpReading" => (flag v).map fun x => { p with speedUpReading := x }
  | "useRawSocket" => (flag v).map fun x => { p with useRawSocket := x }
  | "numberOfItems" => (unsigned 32 "u32" v).map fun x => { p with numberOfItems := some x }
  | "numberOfFields" => (unsigned 32 "u32" v).map fun x => { p with numberOfFields := some x }
  | "subscriptionMode" => (text v).map fun x => { p with subscriptionMode := some x }
  | "unfilteredSubscription" => (flag v).map fun x => { p with unfilteredSubscription := x }
  | "resamplingFrequency" => (optFloat v).map fun x => { p with resamplingFrequency := x }
  | "resamplingBufferSize" =>
    (optUnsigned 32 "u32" v).map fun x => { p with resamplingBufferSize := x }
  | _ => .ok p

/-- A mandatory field, or the failure naming it. -/
def need {α : Type} (name : String) : Option α → Except ClientError α
  | some x => .ok x
  | none => .error (mismatch ("missing field `" ++ name ++ "`"))

/-- The configuration of the fields read, if every mandatory one was set. -/
def Partial.finish (p : Partial) : Except ClientError ClientConfig := do
  let protocol ← need "protocol" p.protocol
  let host ← need "host" p.host
  let port ← need "port" p.port
  let adapterSetName ← need "adapterSetName" p.adapterSetName
  let numberOfSessions ← need "numberOfSessions" p.numberOfSessions
  let itemsPerSession ← need "itemsPerSession" p.itemsPerSession
  let minCreatePool ← need "minCreatePool" p.minCreatePool
  let serverPorts ← need "serverPorts" p.serverPorts
  let numberOfItems ← need "numberOfItems" p.numberOfItems
  let numberOfFields ← need "numberOfFields" p.numberOfFields
  let subscriptionMode ← need "subscriptionMode" p.subscriptionMode
  return { protocol, host, port, adapterSetName, dataAdapterName := p.dataAdapterName,
           user := p.user, password := p.password, numberOfSessions, itemsPerSession,
           itemRandomExtraction := p.itemRandomExtraction,
           firstItemAvailable := p.firstItemAvailable, lastItemAvailable := p.lastItemAvailable,
           sessionDurationSeconds := p.sessionDurationSeconds,
           delaySessionStartMillis := p.delaySessionStartMillis, minCreatePool, serverPorts,
           lastRecentUsed := p.lastRecentUsed, ignoreData := p.ignoreData,
           speedUpReading := p.speedUpReading, useRawSocket := p.useRawSocket, numberOfItems,
           numberOfFields, subscriptionMode, unfilteredSubscription := p.unfilteredSubscription,
           resamplingFrequency := p.resamplingFrequency,
           resamplingBufferSize := p.resamplingBufferSize }

end ConfigDecoder

/-- The configuration of a JSON object, its entries read in increasing order of key. -/
def ClientConfig.ofJson (raw : Json) : Except ClientError ClientConfig :=
  match raw with
  | .object entries => do
    let p ← entries.foldlM ConfigDecoder.readEntry {}
    p.finish
  | _ => .error (.config "invalid type: value, expected struct ClientConfig")

end TlcpLoad
