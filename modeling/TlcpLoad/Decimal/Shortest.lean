/-! # Shortest decimal digits of a double

A finite double stands for an interval of reals: those that round to it. The shortest
decimal for it is the one with the fewest significant digits inside that interval; of two
such, the nearer to the double, and of two equally near, the one a `Tie` rule names: the
even one, or the one of larger magnitude.

The double `m · 2^e` (with `m < 2^53`) rounds from the interval between the midpoints to its
two neighbours. The interval includes its ends exactly when `m` is even, because a tie goes to
the even significand. Its lower half is narrower when `m` is a power of two, since the spacing
of doubles halves below it.

For `n = 1, 2, …, 17` the search looks at the grid of `n`-digit decimals around the value. If
any point of that grid lies in the interval, then one of the two grid points next to the value
does, so only those two are tested. Seventeen digits always suffice. All comparisons are exact
rational comparisons in `Nat`. -/

namespace TlcpLoad.Decimal

/-- A decimal `digits · 10 ^ exponent` with a sign. Zero has `digits = 0`. -/
structure Scientific where
  negative : Bool
  digits : Nat
  exponent : Int
  deriving DecidableEq, Repr

/-- How a double lying exactly halfway between two shortest candidates is written. -/
inductive Tie where
  /-- The candidate whose last digit is even. -/
  | toEven
  /-- The candidate of larger magnitude. -/
  | up
  deriving DecidableEq, Repr

/-- `a · 10^k` compared with `b · 2^s`, exactly. -/
def compareScaled (a : Nat) (k : Int) (b : Nat) (s : Int) : Ordering :=
  let left := a * Nat.pow 10 k.toNat * Nat.pow 2 (-s).toNat
  let right := b * Nat.pow 2 s.toNat * Nat.pow 10 (-k).toNat
  compare left right

/-- `⌊b · 2^s / 10^k⌋` and whether the division is exact. -/
def divScaled (b : Nat) (s : Int) (k : Int) : Nat × Bool :=
  let num := b * Nat.pow 2 s.toNat * Nat.pow 10 (-k).toNat
  let den := Nat.pow 2 (-s).toNat * Nat.pow 10 k.toNat
  (num / den, num % den == 0)

/-- The largest `E` with `10^E ≤ b · 2^s`, found from an estimate by at most `fuel` steps
    each way. -/
def decimalExponent (b : Nat) (s : Int) : Int :=
  let estimate : Int := Int.fdiv (((Nat.log2 b : Int) + s) * 30103) 100000
  let rec up (fuel : Nat) (e : Int) : Int :=
    match fuel with
    | 0 => e
    | fuel + 1 => if compareScaled 1 (e + 1) b s != .gt then up fuel (e + 1) else e
  let rec down (fuel : Nat) (e : Int) : Int :=
    match fuel with
    | 0 => e
    | fuel + 1 => if compareScaled 1 e b s == .gt then down fuel (e - 1) else e
  up 8 (down 8 estimate)

/-- The rounding interval of a positive finite double, scaled by `2^s`: the double is
    `mid · 2^s`, the interval runs from `lo · 2^s` to `hi · 2^s`, and `closed` says whether
    both ends belong to it. -/
structure Interval where
  lo : Nat
  mid : Nat
  hi : Nat
  s : Int
  closed : Bool

/-- The rounding interval of the double with significand `m` and exponent `e`, where
    `narrowBelow` marks a power-of-two significand above the smallest exponent. -/
def Interval.ofParts (m : Nat) (e : Int) (narrowBelow : Bool) : Interval :=
  { lo := if narrowBelow then 4 * m - 1 else 4 * m - 2
    mid := 4 * m
    hi := 4 * m + 2
    s := e - 2
    closed := m % 2 == 0 }

/-- Whether `d · 10^k` lies in the interval. -/
def Interval.holds (iv : Interval) (d : Nat) (k : Int) : Bool :=
  let aboveLo := compareScaled d k iv.lo iv.s
  let belowHi := compareScaled d k iv.hi iv.s
  let okLo := if iv.closed then aboveLo != .lt else aboveLo == .gt
  let okHi := if iv.closed then belowHi != .gt else belowHi == .lt
  okLo && okHi

/-- Of the grid points `a · 10^k` and `(a + 1) · 10^k` next to the value, the one in the
    interval; the nearer if both are, and the one `tie` names if both are equally near. -/
def Interval.pick (iv : Interval) (tie : Tie) (a : Nat) (exact : Bool) (k : Int) :
    Option Nat :=
  if exact then (if iv.holds a k then some a else none)
  else
    let inA := iv.holds a k
    let inB := iv.holds (a + 1) k
    if inA && inB then
      -- distance of a is v - a·10^k, of a+1 is (a+1)·10^k - v; compare 2v with (2a+1)·10^k
      match compareScaled (2 * a + 1) k (2 * iv.mid) iv.s with
      | .lt => some (a + 1)
      | .gt => some a
      | .eq =>
        match tie with
        | .toEven => if a % 2 == 0 then some a else some (a + 1)
        | .up => some (a + 1)
    else if inA then some a
    else if inB then some (a + 1)
    else none

/-- Drops trailing zeros of the digits into the exponent. -/
def trimZeros (fuel : Nat) (d : Nat) (k : Int) : Nat × Int :=
  match fuel with
  | 0 => (d, k)
  | fuel + 1 => if d ≠ 0 ∧ d % 10 = 0 then trimZeros fuel (d / 10) (k + 1) else (d, k)

/-- The shortest decimal in the interval, trying 1 to 17 significant digits. -/
def Interval.shortest (iv : Interval) (tie : Tie) : Nat × Int :=
  let top := decimalExponent iv.mid iv.s
  let rec go (n : Nat) (fuel : Nat) : Nat × Int :=
    let k := top - n + 1
    let (a, exact) := divScaled iv.mid iv.s k
    match iv.pick tie a exact k, fuel with
    | some d, _ => trimZeros 20 d k
    | none, 0 => trimZeros 20 a k
    | none, fuel + 1 => go (n + 1) fuel
  go 1 17

/-- The shortest decimal of a double given by its bits, or `none` for infinities and NaN. -/
def ofBits (tie : Tie) (bits : UInt64) : Option Scientific :=
  let negative := bits >>> 63 == 1
  let biased := ((bits >>> 52) &&& 0x7FF).toNat
  let fraction := (bits &&& 0xFFFFFFFFFFFFF).toNat
  if biased = 0x7FF then none
  else if biased = 0 ∧ fraction = 0 then some ⟨negative, 0, 0⟩
  else
    let iv :=
      if biased = 0 then Interval.ofParts fraction (-1074) false
      else Interval.ofParts (fraction + Nat.pow 2 52) ((biased : Int) - 1075) (fraction = 0 ∧ biased > 1)
    let (d, k) := iv.shortest tie
    some ⟨negative, d, k⟩

/-- The shortest decimal of a float, or `none` for infinities and NaN. -/
def ofFloat (tie : Tie) (x : Float) : Option Scientific :=
  ofBits tie x.toBits

example : ofFloat .toEven 0.5 = some ⟨false, 5, -1⟩ := by decide +kernel
example : ofFloat .toEven 0.1 = some ⟨false, 1, -1⟩ := by decide +kernel
example : ofFloat .toEven 1e-7 = some ⟨false, 1, -7⟩ := by decide +kernel
example : ofFloat .toEven 18446744073709551616.0 = some ⟨false, 18446744073709552, 3⟩ := by
  decide +kernel
example : ofFloat .toEven 1125899906842624.25 = some ⟨false, 11258999068426242, -1⟩ := by
  decide +kernel
example : ofFloat .up 1125899906842624.25 = some ⟨false, 11258999068426243, -1⟩ := by
  decide +kernel

end TlcpLoad.Decimal
