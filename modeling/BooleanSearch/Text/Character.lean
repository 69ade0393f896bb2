/-!
# Characters

The classes of characters that text is read by, and what is made of runs of them.

* `isDelimiter` — the six ASCII characters that separate the words of a search expression.  Every
  other character is text, so a no-break space or an ideographic space never splits a term;
* `isWhiteSpace` — the wider class of characters that may stand around the number of a setting;
* `trimBy` — text without the characters of a class at its two ends, with `trim` for delimiters;
* `isBlank` — text made of delimiters only;
* `natOfDigits`, `hexDigits`, `hexDigit?` — numbers in decimal and in hexadecimal digits.
-/

namespace BooleanSearch

/-! ## The ends of a text -/

/-- Tab, line feed, vertical tab, form feed, carriage return and space. -/
def isDelimiter (c : Char) : Bool :=
  c == '\t' || c == '\n' || c == '\x0b' || c == '\x0c' || c == '\r' || c == ' '

/-- The twenty-five characters with the White_Space property. -/
def isWhiteSpace (c : Char) : Bool :=
  let n := c.toNat
  (0x09 ≤ n && n ≤ 0x0d) || n == 0x20 || n == 0x85 || n == 0xa0 || n == 0x1680 ||
    (0x2000 ≤ n && n ≤ 0x200a) || n == 0x2028 || n == 0x2029 || n == 0x202f || n == 0x205f ||
    n == 0x3000

/-- Removes the characters of a class at both ends and keeps everything between. -/
def trimBy (inClass : Char → Bool) (text : List Char) : List Char :=
  ((text.dropWhile inClass).reverse.dropWhile inClass).reverse

/-- Removes the delimiters at both ends. -/
def trim (text : List Char) : List Char :=
  trimBy isDelimiter text

/-- Blank text holds nothing but delimiters; the empty text is blank. -/
def isBlank (text : List Char) : Bool :=
  text.all isDelimiter

/-! ## Digits -/

/-- The value of a run of decimal digits, most significant first. -/
def natOfDigits (digits : List Char) : Nat :=
  digits.foldl (fun n c => 10 * n + (c.toNat - '0'.toNat)) 0

/-- The lower-case hexadecimal digits of a number without padding, `0` for zero. -/
def hexDigits (n : Nat) : List Char :=
  Nat.toDigits 16 n

/-- The value of a hexadecimal digit in either case. -/
def hexDigit? (c : Char) : Option Nat :=
  if '0' ≤ c ∧ c ≤ '9' then some (c.toNat - '0'.toNat)
  else if 'a' ≤ c ∧ c ≤ 'f' then some (c.toNat - 'a'.toNat + 10)
  else if 'A' ≤ c ∧ c ≤ 'F' then some (c.toNat - 'A'.toNat + 10)
  else none

end BooleanSearch
