/-! # Blank characters

The Unicode property White_Space holds for exactly 25 code points. Name lists are split at
runs of them, and cookie parts are trimmed of them. The ASCII test of core
(`Char.isWhitespace`) knows six of them; this one knows all. -/

namespace TlcpLoad.Blank

/-- The code points with the Unicode property White_Space. -/
def isBlank (c : Char) : Bool :=
  let n := c.toNat
  (0x09 ≤ n && n ≤ 0x0D) || n == 0x20 || n == 0x85 || n == 0xA0 || n == 0x1680
    || (0x2000 ≤ n && n ≤ 0x200A) || n == 0x2028 || n == 0x2029 || n == 0x202F
    || n == 0x205F || n == 0x3000

/-- Every character that core counts as whitespace is blank here too. -/
theorem isBlank_of_isWhitespace (c : Char) (h : c.isWhitespace = true) : isBlank c = true := by
  simp only [Char.isWhitespace, Bool.or_eq_true, decide_eq_true_eq] at h
  simp only [isBlank, Bool.or_eq_true, Bool.and_eq_true, beq_iff_eq, decide_eq_true_eq]
  rcases h with ((h | h) | h) | h <;> subst h <;> decide

/-- Splits at every run of blanks and drops the empty words: the words of a text. -/
def words (cs : List Char) : List (List Char) :=
  (cs.splitBy (fun a b => isBlank a == isBlank b)).filter
    (fun w => match w with
      | c :: _ => !isBlank c
      | [] => false)

/-- Drops the blanks at both ends. -/
def trim (cs : List Char) : List Char :=
  ((cs.dropWhile isBlank).reverse.dropWhile isBlank).reverse

/-- The words of a string, as strings. -/
def wordsOf (s : String) : List String :=
  (words s.toList).map String.ofList

/-- A string without its blanks at both ends. -/
def trimString (s : String) : String :=
  String.ofList (trim s.toList)

example : wordsOf "  a  b\tc " = ["a", "b", "c"] := by decide
example : wordsOf "x　y" = ["x", "y"] := by decide
example : wordsOf " \t\n " = [] := by decide
example : trimString "  a b\n" = "a b" := by decide

end TlcpLoad.Blank
