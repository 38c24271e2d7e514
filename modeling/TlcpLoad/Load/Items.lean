import TlcpLoad.Decimal.Numeral

/-! # Items of a session

A load test gives each session `per` items out of the range `first … last`, spread at equal
distance, and starting at an offset given by the session id: with 500 items and 5 per
session, session 1 gets `i1 i101 i201 i301 i401` and session 2 gets `i2 i102 …`.

Item numbers are 32-bit words, and the computation stops at the first step that leaves the
range of a word (`WordFault`): `last < first`, a range of all 2^32 numbers, or a step past
2^32 − 1. -/

namespace TlcpLoad

/-- The arithmetic step of 32-bit words that cannot be carried out. -/
inductive WordFault where
  | subtractOverflow
  | addOverflow
  | remainderByZero
  deriving DecidableEq, Repr

/-- The text of a fault. -/
def WordFault.message : WordFault → String
  | .subtractOverflow => "attempt to subtract with overflow"
  | .addOverflow => "attempt to add with overflow"
  | .remainderByZero => "attempt to calculate the remainder with a divisor of zero"

namespace Word32

/-- The largest word. -/
def max : Nat := Nat.pow 2 32 - 1

/-- Subtraction of words. -/
def sub (a b : Nat) : Except WordFault Nat :=
  if b ≤ a then .ok (a - b) else .error .subtractOverflow

/-- Addition of words. -/
def add (a b : Nat) : Except WordFault Nat :=
  if a + b ≤ max then .ok (a + b) else .error .addOverflow

/-- Remainder of words. -/
def rem (a b : Nat) : Except WordFault Nat :=
  if b = 0 then .error .remainderByZero else .ok (a % b)

end Word32

/-- The name of item `n`. -/
def itemName (n : Nat) : String :=
  "i" ++ Numeral.natText n

/-- The items after the first: `count` more, each `step` after the one before, wrapping
    back by `available` past `last`. -/
def itemsAfter (last step available : Nat) : Nat → Nat → Except WordFault (List Nat)
  | _, 0 => .ok []
  | item, count + 1 =>
    match Word32.add item step with
    | .error e => .error e
    | .ok next =>
      let next := if next > last then next - available else next
      (itemsAfter last step available next count).map (next :: ·)

/-- The item numbers of session `id` out of `first … last`, `per` of them (at least one). -/
def itemsAtSameDistance (id first last per : Nat) : Except WordFault (List Nat) := do
  let span ← Word32.sub last first
  let available ← Word32.add span 1
  let step := available / Nat.max per 1
  let offset ← Word32.rem (id - 1) available
  let start ← Word32.add offset first
  let rest ← itemsAfter last step available start (per - 1)
  return start :: rest

example : (itemsAtSameDistance 1 1 500 5).toOption = some [1, 101, 201, 301, 401] := by decide
example : (itemsAtSameDistance 4294967295 1 10 3).toOption = some [5, 8, 1] := by decide

end TlcpLoad
