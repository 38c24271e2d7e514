import TlcpLoad.Decimal.Shortest
import TlcpLoad.Decimal.Numeral

/-! # Writing a decimal

A float is written from its shortest decimal (`Decimal.ofFloat`). Two formats are in use:

* `FloatFormat.plain`, for values shown to people (a configured frequency, a metric): always
  positional, no exponent, and no `.0` after an integral value: `0.5`, `42`, `0.0000001`,
  `100000000000000000000`, `-0`. A double halfway between two shortest candidates takes the
  larger: `1125899906842624.25` is `1125899906842624.3`.
* `FloatFormat.json`, for numbers inside JSON text: positional while the decimal point falls
  between 5 places left of the first digit and 16 places right of it, with `.0` after an
  integral value; otherwise one digit, an optional fraction and `e` with the signed exponent:
  `0.5`, `1000.0`, `1e+16`, `1.5e+300`, `1e-7`. A halfway double takes the even candidate:
  `1125899906842624.25` is `1125899906842624.2`.

The position of the decimal point is `point = digits + exponent`, counted from the left end
of the digit string. -/

namespace TlcpLoad.Decimal

/-- The choices that tell two float formats apart. -/
structure FloatFormat where
  /-- Points `p` with `lo < p ≤ hi` are written positionally, the others with an exponent;
      `none` writes every value positionally. -/
  positional : Option (Int × Int)
  /-- Written after an integral value in positional form. -/
  integralSuffix : String
  /-- The text of zero, without its sign. -/
  zero : String
  /-- Written before an exponent that is not negative. -/
  exponentPlus : String
  /-- The shortest candidate taken when two are equally near. -/
  tie : Tie

/-- Plain text: always positional, no `.0`. -/
def FloatFormat.plain : FloatFormat :=
  { positional := none, integralSuffix := "", zero := "0", exponentPlus := "", tie := .up }

/-- JSON text: positional for points in `(-5, 16]`, `.0` after integral values, an explicit
    `+` on a positive exponent, and ties to the even candidate. -/
def FloatFormat.json : FloatFormat :=
  { positional := some (-5, 16), integralSuffix := ".0", zero := "0.0", exponentPlus := "+",
    tie := .toEven }

/-- `n` zero digits. -/
def zeros (n : Nat) : List Char :=
  List.replicate n '0'

/-- The digits of `d · 10^k` written positionally. -/
def positionalText (fmt : FloatFormat) (ds : List Char) (k : Int) : List Char :=
  if 0 ≤ k then
    ds ++ zeros k.toNat ++ fmt.integralSuffix.toList
  else
    let point : Int := ds.length + k
    if 0 < point then
      ds.take point.toNat ++ ['.'] ++ ds.drop point.toNat
    else
      ['0', '.'] ++ zeros (-point).toNat ++ ds

/-- The digits of `d · 10^k` written with an exponent: `d.ddde<point - 1>`. -/
def exponentText (fmt : FloatFormat) (ds : List Char) (k : Int) : List Char :=
  let e : Int := ds.length + k - 1
  let mantissa := match ds with
    | [c] => [c]
    | c :: rest => c :: '.' :: rest
    | [] => ['0']
  let expDigits := Nat.toDigits 10 e.natAbs
  mantissa ++ ['e'] ++ (if e < 0 then '-' :: expDigits else fmt.exponentPlus.toList ++ expDigits)

/-- A decimal written in a float format. -/
def Scientific.render (fmt : FloatFormat) (x : Scientific) : String :=
  let sign := if x.negative then "-" else ""
  if x.digits = 0 then sign ++ fmt.zero
  else
    let ds := Nat.toDigits 10 x.digits
    let point : Int := ds.length + x.exponent
    let body := match fmt.positional with
      | none => positionalText fmt ds x.exponent
      | some (lo, hi) =>
        if lo < point ∧ point ≤ hi then positionalText fmt ds x.exponent
        else exponentText fmt ds x.exponent
    sign ++ String.ofList body

/-- A float written in a format; infinities and NaN, which no input produces, as `NaN`
    and `inf`. -/
def renderFloat (fmt : FloatFormat) (x : Float) : String :=
  match ofFloat fmt.tie x with
  | some d => d.render fmt
  | none => if x.isNaN then "NaN" else if x < 0 then "-inf" else "inf"

/-- The exact value of a finite float: its sign, an integer mantissa and a power of two. -/
def binaryParts (x : Float) : Option (Bool × Nat × Int) :=
  let bits := x.toBits
  let negative := bits >>> 63 == 1
  let biased := ((bits >>> 52) &&& 0x7FF).toNat
  let fraction := (bits &&& 0xFFFFFFFFFFFFF).toNat
  if biased = 0x7FF then none
  else if biased = 0 then some (negative, fraction, -1074)
  else some (negative, fraction + Nat.pow 2 52, (biased : Int) - 1075)

/-- A float written with a fixed number of decimals, rounded to the nearest on its exact
    binary value, a tie going to the even last digit. -/
def fixedText (x : Float) (places : Nat) : String :=
  match binaryParts x with
  | none => if x.isNaN then "NaN" else if x < 0 then "-inf" else "inf"
  | some (negative, m, e) =>
    let num := m * Nat.pow 10 places * (if e ≥ 0 then Nat.pow 2 e.toNat else 1)
    let den := if e ≥ 0 then 1 else Nat.pow 2 (-e).toNat
    let q := num / den
    let r := num % den
    let q := if 2 * r > den ∨ (2 * r = den ∧ q % 2 = 1) then q + 1 else q
    let scale := Nat.pow 10 places
    let frac := Numeral.natText (q % scale)
    let frac := String.ofList (zeros (places - frac.length)) ++ frac
    (if negative then "-" else "") ++ Numeral.natText (q / scale)
      ++ (if places = 0 then "" else "." ++ frac)

example : fixedText 0.0 2 = "0.00" := by decide +kernel
example : fixedText 0.125 2 = "0.12" := by decide +kernel
example : fixedText 0.375 2 = "0.38" := by decide +kernel
example : fixedText (2.0 / 3.0) 2 = "0.67" := by decide +kernel
example : fixedText 1.0 2 = "1.00" := by decide +kernel

example : renderFloat .plain 0.5 = "0.5" := by decide +kernel
example : renderFloat .plain 2.0 = "2" := by decide +kernel
example : renderFloat .plain 1e-7 = "0.0000001" := by decide +kernel
example : renderFloat .plain 1e20 = "100000000000000000000" := by decide +kernel
example : renderFloat .json 1000.0 = "1000.0" := by decide +kernel
example : renderFloat .json 1e16 = "1e+16" := by decide +kernel
example : renderFloat .json 1e-7 = "1e-7" := by decide +kernel
example : renderFloat .json 0.00001 = "0.00001" := by decide +kernel
example : renderFloat .json 1.5e300 = "1.5e+300" := by decide +kernel
example : renderFloat .plain 1125899906842624.25 = "1125899906842624.3" := by decide +kernel
example : renderFloat .json 1125899906842624.25 = "1125899906842624.2" := by decide +kernel

end TlcpLoad.Decimal
