/-! # Base64

The standard alphabet of RFC 4648 §4, with `=` padding: every three bytes become four
characters, and a last group of one or two bytes is padded to four characters. -/

namespace TlcpLoad.Base64

/-- The character of a six-bit value. -/
def symbol (n : Nat) : Char :=
  if n < 26 then Char.ofNat (0x41 + n)
  else if n < 52 then Char.ofNat (0x61 + n - 26)
  else if n < 62 then Char.ofNat (0x30 + n - 52)
  else if n = 62 then '+'
  else '/'

/-- The characters of a byte list. -/
def encodeList : List UInt8 → List Char
  | [] => []
  | [a] =>
    let n := a.toNat * 65536
    [symbol (n / 262144), symbol (n / 4096 % 64), '=', '=']
  | [a, b] =>
    let n := a.toNat * 65536 + b.toNat * 256
    [symbol (n / 262144), symbol (n / 4096 % 64), symbol (n / 64 % 64), '=']
  | a :: b :: c :: rest =>
    let n := a.toNat * 65536 + b.toNat * 256 + c.toNat
    symbol (n / 262144) :: symbol (n / 4096 % 64) :: symbol (n / 64 % 64) :: symbol (n % 64)
      :: encodeList rest

/-- The Base64 text of a byte list. -/
def encode (bs : List UInt8) : String :=
  String.ofList (encodeList bs)

example : encode [0x4D, 0x61, 0x6E] = "TWFu" := by decide
example : encode [0x4D] = "TQ==" := by decide

end TlcpLoad.Base64
