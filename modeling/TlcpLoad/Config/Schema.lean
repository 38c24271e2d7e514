import TlcpLoad.Json.Write
import TlcpLoad.Client.Error

/-! # The configuration schema

A configuration is one flat JSON object. The table `Schema.fields` lists every key that the
load test reads, with the JSON type it must have and whether it is mandatory. `validateRaw`
checks an object against the table, key by key in table order, and reports the first fault:

* a mandatory key that is missing or null;
* a present, non-null value of the wrong type, shown as compact JSON.

Keys outside the table are ignored, and a null optional key counts as missing. -/

namespace TlcpLoad

/-- The JSON type a configuration key must have. -/
inductive FieldKind where
  /-- A string. -/
  | text
  /-- An integer from 0 to 2^64 − 1. -/
  | integer
  /-- A number, integer or not, that is not negative. -/
  | number
  /-- A boolean. -/
  | flag
  deriving DecidableEq, Repr

/-- The name of a kind, as in messages. -/
def FieldKind.name : FieldKind → String
  | .text => "String"
  | .integer => "Integer"
  | .number => "Number"
  | .flag => "Bool"

/-- Whether a value has the kind. -/
def FieldKind.accepts : FieldKind → Json → Bool
  | .text, .string _ => true
  | .integer, .number (.nat _) => true
  | .number, v => match v.asFloat? with
    | some x => x ≥ 0
    | none => false
  | .flag, .bool _ => true
  | _, _ => false

/-- One row of the schema. -/
structure FieldSpec where
  name : String
  kind : FieldKind
  mandatory : Bool
  deriving DecidableEq, Repr

/-- Every key of a configuration, in the order they are checked. -/
def Schema.fields : List FieldSpec :=
  [ ⟨"protocol", .text, true⟩,
    ⟨"host", .text, true⟩,
    ⟨"port", .integer, true⟩,
    ⟨"adapterSetName", .text, true⟩,
    ⟨"dataAdapterName", .text, false⟩,
    ⟨"user", .text, false⟩,
    ⟨"password", .text, false⟩,
    ⟨"numberOfSessions", .integer, true⟩,
    ⟨"itemsPerSession", .integer, true⟩,
    ⟨"itemRandomExtraction", .flag, false⟩,
    ⟨"firstItemAvailable", .integer, false⟩,
    ⟨"lastItemAvailable", .integer, false⟩,
    ⟨"sessionDurationSeconds", .integer, false⟩,
    ⟨"delaySessionStartMillis", .integer, false⟩,
    ⟨"minCreatePool", .integer, true⟩,
    ⟨"serverPorts", .integer, true⟩,
    ⟨"lastRecentUsed", .flag, false⟩,
    ⟨"ignoreData", .flag, false⟩,
    ⟨"speedUpReading", .flag, false⟩,
    ⟨"useRawSocket", .flag, false⟩,
    ⟨"numberOfItems", .integer, true⟩,
    ⟨"numberOfFields", .integer, true⟩,
    ⟨"subscriptionMode", .text, true⟩,
    ⟨"unfilteredSubscription", .flag, false⟩,
    ⟨"resamplingFrequency", .number, false⟩,
    ⟨"resamplingBufferSize", .integer, false⟩ ]

/-- Checks one key of an object against its row. -/
def FieldSpec.check (spec : FieldSpec) (raw : Json) : Except ClientError Unit :=
  match raw.get? spec.name with
  | none | some .null =>
    if spec.mandatory then .error (.config ("missing mandatory parameter " ++ spec.name))
    else .ok ()
  | some v =>
    if spec.kind.accepts v then .ok ()
    else .error (.config ("parameter " ++ spec.name ++ " must be " ++ spec.kind.name ++ ", got "
      ++ v.compact))

/-- Checks presence and type of every key of the schema, in table order. -/
def validateRaw (raw : Json) : Except ClientError Unit :=
  match raw with
  | .object _ => Schema.fields.forM fun spec => spec.check raw
  | _ => .error (.config "configuration must be a JSON object")

end TlcpLoad
