import TlcpLoad.Text.Blank

/-! # Name lists

A subscription names its items and its fields as lists of names. The server receives each
list as one text, the names joined by single spaces, and numbers them from position 0 in
that order. A name that occurs twice has the position of its last occurrence. -/

namespace TlcpLoad

/-- An ordered list of item or field names. -/
structure NameList where
  names : List String := []
  deriving DecidableEq, Repr

namespace NameList

/-- The names of a text: the words between its blanks. -/
def parse (spec : String) : NameList :=
  ⟨Blank.wordsOf spec⟩

/-- The names joined by single spaces, as sent to the server. -/
def joined (d : NameList) : String :=
  " ".intercalate d.names

/-- The number of names. -/
def length (d : NameList) : Nat :=
  d.names.length

/-- Whether there are no names. -/
def isEmpty (d : NameList) : Bool :=
  d.names.isEmpty

/-- The name at a position. -/
def get? (d : NameList) (i : Nat) : Option String :=
  d.names[i]?

/-- The last position of a name among `names`, counting from `start`. -/
def lastPosition (name : String) : List String → Nat → Option Nat
  | [], _ => none
  | n :: rest, start =>
    match lastPosition name rest (start + 1) with
    | some i => some i
    | none => if n = name then some start else none

/-- The position of a name: the last one where it occurs. -/
def position? (d : NameList) (name : String) : Option Nat :=
  lastPosition name d.names 0

example : (NameList.mk ["f", "g", "f"]).position? "f" = some 2 := by decide
example : (parse "bid  ask last").joined = "bid ask last" := by decide

end NameList

end TlcpLoad
