import TlcpLoad.Text.Blank

/-! # Cookie jar

Servers behind a load balancer pin a client to a node with a cookie. The jar keeps, per host,
the cookies that the server set, and replays them on every later request to that host.

* A `Set-Cookie` text is split at `;` into parts, each trimmed of blanks. The first part must
  hold a `=`: the name is the text before the first `=` and the value the text after it, both
  trimmed, and the name must not be empty. Otherwise the cookie is ignored.
* A later part `max-age=0` (key in any ASCII case, key and value trimmed) deletes the cookie
  instead of storing it.
* Hosts are compared in ASCII lowercase.
* The replayed header lists `name=value` pairs in increasing order of name, joined by `"; "`. -/

namespace TlcpLoad

/-- The ASCII lowercase of a text; other characters are kept. -/
def asciiLower (s : String) : String :=
  s.map fun c => if 'A' ≤ c ∧ c ≤ 'Z' then Char.ofNat (c.toNat + 32) else c

/-- Splits a text at the first occurrence of `sep`. -/
def splitOnce (s : String) (sep : Char) : Option (String × String) :=
  let cs := s.toList
  match cs.idxOf? sep with
  | some i => some (String.ofList (cs.take i), String.ofList (cs.drop (i + 1)))
  | none => none

/-- The cookies of one host: names with values, sorted by name, names unique. -/
abbrev CookieMap := List (String × String)

namespace CookieMap

/-- Stores a cookie, replacing one of the same name. -/
def insert (name value : String) : CookieMap → CookieMap
  | [] => [(name, value)]
  | (n, v) :: rest =>
    if name < n then (name, value) :: (n, v) :: rest
    else if name = n then (name, value) :: rest
    else (n, v) :: insert name value rest

/-- Deletes the cookie of a name. -/
def erase (name : String) (m : CookieMap) : CookieMap :=
  m.filter fun (n, _) => n ≠ name

end CookieMap

/-- What a `Set-Cookie` text asks for. -/
inductive CookieChange where
  | store (name value : String)
  | delete (name : String)
  deriving DecidableEq, Repr

/-- Whether an attribute part is `max-age=0`. -/
def isMaxAgeZero (part : String) : Bool :=
  match splitOnce part '=' with
  | some (k, v) => asciiLower (Blank.trimString k) == "max-age" && Blank.trimString v == "0"
  | none => false

/-- Reads a `Set-Cookie` text; `none` when it is malformed. -/
def CookieChange.parse? (setCookie : String) : Option CookieChange :=
  match (setCookie.splitOn ";").map Blank.trimString with
  | first :: attributes =>
    match splitOnce first '=' with
    | some (name, value) =>
      let name := Blank.trimString name
      if name.isEmpty then none
      else if attributes.any isMaxAgeZero then some (.delete name)
      else some (.store name (Blank.trimString value))
    | none => none
  | [] => none

/-- The cookies of all hosts, by lowercase host. -/
structure CookieJar where
  hosts : List (String × CookieMap) := []
  deriving DecidableEq, Repr

namespace CookieJar

/-- The cookies of a host. -/
def cookies (jar : CookieJar) (host : String) : CookieMap :=
  (jar.hosts.lookup (asciiLower host)).getD []

/-- Replaces the cookies of a lowercase host. -/
def setHost (key : String) (m : CookieMap) : List (String × CookieMap) → List (String × CookieMap)
  | [] => [(key, m)]
  | (h, old) :: rest => if h = key then (key, m) :: rest else (h, old) :: setHost key m rest

/-- Applies a `Set-Cookie` text received from a host. -/
def save (jar : CookieJar) (host setCookie : String) : CookieJar :=
  match CookieChange.parse? setCookie with
  | none => jar
  | some change =>
    let m := jar.cookies host
    let m' := match change with
      | .store name value => m.insert name value
      | .delete name => m.erase name
    { hosts := setHost (asciiLower host) m' jar.hosts }

/-- The `Cookie` header for a host, if it has cookies. -/
def header? (jar : CookieJar) (host : String) : Option String :=
  match jar.cookies host with
  | [] => none
  | m => some ("; ".intercalate (m.map fun (n, v) => n ++ "=" ++ v))

end CookieJar

end TlcpLoad
