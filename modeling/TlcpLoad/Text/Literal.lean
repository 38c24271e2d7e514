import TlcpLoad.Text.Unprintable

/-! # Quoted literals

Error messages show a piece of text as a quoted literal, so that blanks, control characters
and quotes inside it stay visible. A literal is the text between two quotes, where:

* NUL, tab, carriage return and line feed are written `\0`, `\t`, `\r`, `\n`;
* the backslash and the literal's own quote are written after a backslash;
* a character from the table of `Unprintable` is written `\u{h…}`, its code point in
  lowercase hexadecimal without leading zeros;
* every other character, non-ASCII included, stands for itself.

Text literals use the double quote and character literals the single quote. -/

namespace TlcpLoad.Literal

/-- The single quote, which delimits a character literal. -/
def singleQuote : Char := Char.ofNat 39

/-- The code point of `c` as a `\u{h…}` escape. -/
def codeEscape (c : Char) : List Char :=
  ['\\', 'u', '\x7b'] ++ Nat.toDigits 16 c.toNat ++ ['\x7d']

/-- How `c` is written inside a literal delimited by `quote`. -/
def escapeChar (quote : Char) (c : Char) : List Char :=
  if c = '\x00' then ['\\', '0']
  else if c = '\t' then ['\\', 't']
  else if c = '\r' then ['\\', 'r']
  else if c = '\n' then ['\\', 'n']
  else if c = '\\' then ['\\', '\\']
  else if c = quote then ['\\', quote]
  else if Unprintable.escapesAsCode c then codeEscape c
  else [c]

/-- A text as a double-quoted literal. -/
def quote (s : String) : String :=
  String.ofList ('"' :: s.toList.flatMap (escapeChar '"') ++ ['"'])

/-- A character as a single-quoted literal. -/
def quoteChar (c : Char) : String :=
  String.ofList (singleQuote :: escapeChar singleQuote c ++ [singleQuote])

example : quote "ten" = "\"ten\"" := by decide +kernel
example : quote "a\"b\\c\n" = "\"a\\\"b\\\\c\\n\"" := by decide +kernel
example : quoteChar 'G' = "'G'" := by decide +kernel
example : quoteChar (Char.ofNat 0x80) = "'\\u\x7b80\x7d'" := by decide +kernel

end TlcpLoad.Literal
