import BooleanSearch.Text.Character

/-!
# JSON numbers

The number grammar of JSON, and the two things that a document keeps of a number: its value if
it is written as a natural number of 64 bits, and whether it lies in the range of binary
fractions of 64 bits.

A number outside that form is worked out in floating point: of its digits as many as fit into a
word of 64 bits make a significand, which is rounded and multiplied by a rounded power of ten.
The number is in range if that product is finite, so right at the border the two roundings
decide and not the exact value.

* `NumberText.parse?` — the parts of a number;
* `NumberText.natural?` — its value as a natural number;
* `NumberText.isFinite` — the range test.
-/

namespace BooleanSearch

/-! ## Grammar -/

/-- A number as it is written. -/
structure NumberText where
  negative : Bool
  /-- The digits in front of a point. -/
  whole : List Char
  /-- The digits behind a point. -/
  fraction? : Option (List Char)
  /-- The power of ten behind an `e`. -/
  exponent? : Option Int
  deriving DecidableEq, Repr

/-- Reads an exponent that fills the whole text: digits, perhaps with a sign. -/
def parseExponent? (text : List Char) : Option Int :=
  let (sign, digits) : Int × List Char :=
    match text with
    | '-' :: digits => (-1, digits)
    | '+' :: digits => (1, digits)
    | digits => (1, digits)
  if digits.isEmpty || !digits.all Char.isDigit then none else some (sign * natOfDigits digits)

/-- Reads the exponent that may follow the digits of a number, up to the end of the text. -/
def optionalExponent? : List Char → Option (Option Int)
  | [] => some none
  | c :: rest => if c = 'e' ∨ c = 'E' then (parseExponent? rest).map some else none

/-- Reads a number that fills the whole text: no plus sign, no needless leading zero, and digits
on both sides of a point. -/
def NumberText.parse? (text : List Char) : Option NumberText :=
  let (negative, unsigned) := match text with
    | '-' :: rest => (true, rest)
    | rest => (false, rest)
  let (whole, rest) := unsigned.span Char.isDigit
  if whole.isEmpty || (whole.head? == some '0' && whole.length != 1) then none
  else
    match rest with
    | '.' :: rest =>
      let (fraction, rest) := rest.span Char.isDigit
      if fraction.isEmpty then none
      else (optionalExponent? rest).map fun e => ⟨negative, whole, some fraction, e⟩
    | rest => (optionalExponent? rest).map fun e => ⟨negative, whole, none, e⟩

/-- The value of a number that is written with digits only and fits into 64 bits. -/
def NumberText.natural? (n : NumberText) : Option Nat :=
  if n.negative || n.fraction?.isSome || n.exponent?.isSome then none
  else
    let value := natOfDigits n.whole
    if value < Nat.pow 2 64 then some value else none

/-! ## Range -/

/-- Appends digits to a number as long as it fits into 64 bits; the digits that are left over come
with it. -/
def fillWord (word : Nat) : List Char → Nat × List Char
  | [] => (word, [])
  | c :: rest =>
    let longer := 10 * word + (c.toNat - '0'.toNat)
    if longer < Nat.pow 2 64 then fillWord longer rest else (word, c :: rest)

/-- The significand of a number and the power of ten that belongs to it.  Digits that do not fit
into the significand count as zeros in front of the point and are dropped behind it. -/
def NumberText.scaled (n : NumberText) : Nat × Int :=
  let (word, excess) := fillWord 0 n.whole
  let fraction := n.fraction?.getD []
  let (significand, dropped) := fillWord word fraction
  (significand,
    excess.length - (fraction.length - dropped.length : Int) + n.exponent?.getD 0)

/-- The nearest number of at most 53 significant bits, of two equally near ones the even one. -/
def roundToBinary (n : Nat) : Nat :=
  let unit := Nat.pow 2 (Nat.log2 n - 52)
  let (down, rest) := (n / unit, n % unit)
  if 2 * rest < unit ∨ (2 * rest = unit ∧ down % 2 = 0) then down * unit else (down + 1) * unit

/-- From this value on a number rounds to infinity: half a step above the greatest fraction. -/
def infinityBorder : Nat :=
  Nat.pow 2 1024 - Nat.pow 2 970

/-- Is the number in range?  Powers of ten above 308 have no fraction of 64 bits, and a negative
power makes a word smaller. -/
def NumberText.isFinite (n : NumberText) : Bool :=
  let (significand, power) := n.scaled
  if significand = 0 ∨ power < 0 then true
  else if 308 < power then false
  else roundToBinary significand * roundToBinary (Nat.pow 10 power.toNat) < infinityBorder

end BooleanSearch
