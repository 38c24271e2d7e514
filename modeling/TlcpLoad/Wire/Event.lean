import TlcpLoad.Wire.Field

/-! # Events of the server

Each frame from the server starts with its kind and a comma, then comma-separated fields:

| frame | event |
|---|---|
| `U,sub,item,payload` | `update` |
| `SUBOK,sub,totalItems,totalFields` | `subscribeOk` |
| `CONOK,session,requestLimit,keepalive,link` | `sessionOk` (link `*`: none) |
| `CONERR,code,message` | `sessionError` |
| `REQERR,req,code,message` | `requestError` |
| `LOOP` or `LOOP,…` | `rebind` |

The last field of each kind takes the rest of the frame, commas included. Fields are read
left to right and the first fault makes the frame a `parseError`. A frame of another kind is
no event at all. -/

namespace TlcpLoad

/-- What the server tells the client in one frame. -/
inductive Event where
  /-- The session is created (or bound): its id, limits, and the host to bind to. -/
  | sessionOk (sessionId : String) (requestLimit keepaliveMs : Nat) (controlLink : Option String)
  /-- The server refuses the session. -/
  | sessionError (code : Int) (message : String)
  /-- The server asks for the stream to be bound again. -/
  | rebind
  /-- A subscription is acknowledged with its numbers of items and fields. -/
  | subscribeOk (subId : String) (totalItems totalFields : Int)
  /-- New values for one item of a subscription. -/
  | update (subId : String) (item : Nat) (values : List FieldValue)
  /-- The server refuses a request. -/
  | requestError (reqId : String) (code : Int) (message : String)
  /-- A frame of a known kind that could not be read. -/
  | parseError (cause : DecodeError) (frame : String)
  deriving DecidableEq, Repr

/-- The name of an event's kind. -/
def Event.kind : Event → String
  | .sessionOk .. => "CONOK"
  | .sessionError .. => "CONERR"
  | .rebind => "LOOP"
  | .subscribeOk .. => "SUBOK"
  | .update .. => "U"
  | .requestError .. => "REQERR"
  | .parseError .. => "parse error"

namespace EventCodec

/-- Splits at the first `n - 1` commas: at most `n` parts, the last with the rest. -/
def splitFields : Nat → List UInt8 → List (List UInt8)
  | 0, _ => []
  | 1, bs => [bs]
  | n + 2, bs =>
    match bs.idxOf? 0x2C with
    | some i => bs.take i :: splitFields (n + 1) (bs.drop (i + 1))
    | none => [bs]

/-- The fields of a frame not yet read, with the frame's kind for failures. -/
structure Fields where
  kind : String
  parts : List (List UInt8)

/-- Takes the next field as bytes. -/
def Fields.bytes (f : Fields) (field : String) : Except DecodeError (List UInt8 × Fields) :=
  match f.parts with
  | p :: rest => .ok (p, { f with parts := rest })
  | [] => .error (.missingField f.kind field)

/-- Takes the next field as a text. -/
def Fields.text (f : Fields) (field : String) : Except DecodeError (String × Fields) :=
  match f.bytes field with
  | .error e => .error e
  | .ok (bs, f) =>
    match Utf8.toString? bs with
    | some s => .ok (s, f)
    | none => .error .invalidUtf8

/-- Takes the next field as a numeral read by `read`. -/
def Fields.number {α : Type} (f : Fields) (field : String) (read : List UInt8 → Option α) :
    Except DecodeError (α × Fields) :=
  match f.bytes field with
  | .error e => .error e
  | .ok (bs, f) =>
    match read bs with
    | some n => .ok (n, f)
    | none => .error (.invalidNumber field (Utf8.toStringLossy bs))

/-- `U,sub,item,payload`. -/
def update (rest : List UInt8) : Except DecodeError Event := do
  let f : Fields := ⟨"U", splitFields 3 rest⟩
  let (subId, f) ← f.text "subId"
  let (item, f) ← f.number "item" Numeral.readU32?
  let (payload, _) ← f.bytes "values"
  let values ← decodeFields payload
  return .update subId item values

/-- `SUBOK,sub,totalItems,totalFields`. -/
def subscribeOk (rest : List UInt8) : Except DecodeError Event := do
  let f : Fields := ⟨"SUBOK", splitFields 3 rest⟩
  let (subId, f) ← f.text "subId"
  let (items, f) ← f.number "totalItems" Numeral.readI32?
  let (fields, _) ← f.number "totalFields" Numeral.readI32?
  return .subscribeOk subId items fields

/-- `CONOK,session,requestLimit,keepalive,link`. -/
def sessionOk (rest : List UInt8) : Except DecodeError Event := do
  let f : Fields := ⟨"CONOK", splitFields 4 rest⟩
  let (sessionId, f) ← f.text "sessionId"
  let (limit, f) ← f.number "requestLimit" Numeral.readU64?
  let (keepalive, f) ← f.number "keepalive" Numeral.readU64?
  let (link, _) ← f.text "controlLink"
  return .sessionOk sessionId limit keepalive (if link = "*" then none else some link)

/-- `CONERR,code,message`. -/
def sessionError (rest : List UInt8) : Except DecodeError Event := do
  let f : Fields := ⟨"CONERR", splitFields 2 rest⟩
  let (code, f) ← f.number "code" Numeral.readI32?
  let (message, _) ← f.text "message"
  return .sessionError code message

/-- `REQERR,req,code,message`. -/
def requestError (rest : List UInt8) : Except DecodeError Event := do
  let f : Fields := ⟨"REQERR", splitFields 3 rest⟩
  let (reqId, f) ← f.text "reqId"
  let (code, f) ← f.number "code" Numeral.readI32?
  let (message, _) ← f.text "message"
  return .requestError reqId code message

/-- The bytes of an ASCII text. -/
def ascii (s : String) : List UInt8 :=
  s.toList.map fun c => c.toNat.toUInt8

/-- The frame after `prefix`, if it starts with it. -/
def afterPrefix (frameBytes : List UInt8) (tag : String) : Option (List UInt8) :=
  let p := ascii tag
  if p.isPrefixOf frameBytes then some (frameBytes.drop p.length) else none

end EventCodec

open EventCodec in
/-- The event of a frame; `none` when the frame is of no known kind. -/
def decodeEvent (frame : List UInt8) : Option Event :=
  let read : Option (Except DecodeError Event) :=
    match afterPrefix frame "U," with
    | some rest => some (update rest)
    | none =>
    match afterPrefix frame "SUBOK," with
    | some rest => some (subscribeOk rest)
    | none =>
    match afterPrefix frame "CONOK," with
    | some rest => some (sessionOk rest)
    | none =>
    match afterPrefix frame "CONERR," with
    | some rest => some (sessionError rest)
    | none =>
    match afterPrefix frame "REQERR," with
    | some rest => some (requestError rest)
    | none =>
      if frame = ascii "LOOP" ∨ (ascii "LOOP,").isPrefixOf frame then some (.ok .rebind)
      else none
  read.map fun r =>
    match r with
    | .ok e => e
    | .error cause => .parseError cause (Utf8.toStringLossy frame)

end TlcpLoad
