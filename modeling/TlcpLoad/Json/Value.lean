/-! # JSON values

A configuration file is a JSON document. Its numbers keep the kind they were written in:

* an integer literal from 0 to 2^64 − 1 is a natural number;
* a negative integer literal down to −2^63 is a negative integer;
* every other number (a fraction, an exponent, or an integer out of those ranges) is a
  double.

So `8080` and `8080.0` are different values: only the first is an integer. Objects keep their
keys in increasing order, one entry per key; a later entry for a key replaces an earlier
one. -/

namespace TlcpLoad

/-- A JSON number, in the kind its literal was read as. -/
inductive JsonNumber where
  /-- An integer from 0 to 2^64 − 1. -/
  | nat (n : Nat)
  /-- An integer from −2^63 to −1. -/
  | neg (n : Int)
  /-- Any other number, as a double. -/
  | float (x : Float)

/-- A JSON value. Object entries are sorted by key, with unique keys. -/
inductive Json where
  | null
  | bool (b : Bool)
  | number (n : JsonNumber)
  | string (s : String)
  | array (items : List Json)
  | object (entries : List (String × Json))

namespace Json

/-- Inserts an entry into a sorted entry list, replacing the entry of the same key. -/
def insertEntry (key : String) (v : Json) : List (String × Json) → List (String × Json)
  | [] => [(key, v)]
  | (k, w) :: rest =>
    if key < k then (key, v) :: (k, w) :: rest
    else if key = k then (key, v) :: rest
    else (k, w) :: insertEntry key v rest

/-- The object of a list of entries, where a later entry for a key wins. -/
def ofEntries (entries : List (String × Json)) : Json :=
  .object (entries.foldl (fun acc (k, v) => insertEntry k v acc) [])

/-- The value of a key of an object; `none` for a missing key or a non-object. -/
def get? (v : Json) (key : String) : Option Json :=
  match v with
  | .object entries => entries.lookup key
  | _ => none

/-- Whether the value is an integer from 0 to 2^64 − 1. -/
def isNat : Json → Bool
  | .number (.nat _) => true
  | _ => false

/-- The value as a double, for any number. -/
def asFloat? : Json → Option Float
  | .number (.nat n) => some (Float.ofNat n)
  | .number (.neg n) => some (Float.ofInt n)
  | .number (.float x) => some x
  | _ => none

end Json

end TlcpLoad
