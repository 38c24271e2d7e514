import TlcpLoad.Subscription.Names
import TlcpLoad.Wire.Field

/-! # Subscriptions and item updates

A subscription asks the server for some fields of some items in a mode (`MERGE`,
`DISTINCT`, …), with optional hints. Once the server acknowledges it, the subscription knows
its totals of items and fields.

An update names its item by position, counting from 1, and carries one value per field of
the schema, in schema order. `ItemUpdate` reads an update through the subscription's names. -/

namespace TlcpLoad

/-- What a subscription asks for. -/
structure Subscription where
  mode : String := ""
  items : NameList := {}
  fields : NameList := {}
  snapshot : Option Bool := none
  dataAdapter : Option String := none
  maxFrequency : Option String := none
  bufferSize : Option Nat := none
  deriving DecidableEq, Repr

namespace Subscription

/-- A subscription of a mode with nothing else set. -/
def ofMode (mode : String) : Subscription := { mode }

/-- Sets the items from a list of names. -/
def withItems (s : Subscription) (names : List String) : Subscription :=
  { s with items := ⟨names⟩ }

/-- Sets the items from a text of blank-separated names. -/
def withItemGroup (s : Subscription) (group : String) : Subscription :=
  { s with items := NameList.parse group }

/-- Sets the fields from a list of names. -/
def withFields (s : Subscription) (names : List String) : Subscription :=
  { s with fields := ⟨names⟩ }

/-- Sets the fields from a text of blank-separated names. -/
def withFieldSchema (s : Subscription) (schema : String) : Subscription :=
  { s with fields := NameList.parse schema }

end Subscription

/-- An update of one item, read through the subscription it belongs to. -/
structure ItemUpdate where
  subscription : Subscription
  item : Nat
  values : List FieldValue

namespace ItemUpdate

/-- The item's name: items count from 1, and item 0 has none. -/
def itemName? (u : ItemUpdate) : Option String :=
  if u.item = 0 then none else u.subscription.items.get? (u.item - 1)

/-- The value at a position, counting from 1. -/
def value? (u : ItemUpdate) (pos : Nat) : Option FieldValue :=
  if pos = 0 then none else u.values[pos - 1]?

/-- The value of a field, by the field's position in the schema. -/
def valueByName? (u : ItemUpdate) (field : String) : Option FieldValue :=
  (u.subscription.fields.position? field).bind fun i => u.values[i]?

/-- Whether the update has one value per field of the schema. -/
def matchesSchema (u : ItemUpdate) : Bool :=
  u.values.length == u.subscription.fields.length

end ItemUpdate

end TlcpLoad
