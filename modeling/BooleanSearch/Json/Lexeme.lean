import BooleanSearch.Json.Basic
import BooleanSearch.Json.Number

/-!
# Lexemes of a JSON text

The characters of a JSON text are read one by one by a machine that is between lexemes, in a
word, or in a string.  A word is a run of the characters that numbers, `null`, `true` and
`false` are made of; it ends at the first other character.

* `Lexeme` — a punctuation mark, or a value without parts;
* `textOfUnits` — the text of a string, with surrogate pairs joined;
* `lexemes?` — the lexemes of a text, if each of them is well formed.
-/

namespace BooleanSearch

/-- A lexeme of a JSON text. -/
inductive Lexeme where
  /-- A bracket, a brace, a comma or a colon. -/
  | mark (c : Char)
  /-- A value without parts. -/
  | scalar (value : Json)

/-! ## Strings -/

/-- The first unit of a surrogate pair. -/
def isHighSurrogate (unit : Nat) : Bool :=
  0xD800 ≤ unit && unit ≤ 0xDBFF

/-- The second unit of a surrogate pair. -/
def isLowSurrogate (unit : Nat) : Bool :=
  0xDC00 ≤ unit && unit ≤ 0xDFFF

/-- The characters of a string given by code points and escaped 16-bit units.  A surrogate has to
stand in a pair. -/
def charsOfUnits : List Nat → Option (List Char)
  | [] => some []
  | [unit] =>
    if isHighSurrogate unit || isLowSurrogate unit then none else some [Char.ofNat unit]
  | unit :: next :: rest =>
    if isHighSurrogate unit then
      if isLowSurrogate next then
        (charsOfUnits rest).map
          (Char.ofNat (0x10000 + (unit - 0xD800) * 0x400 + (next - 0xDC00)) :: ·)
      else none
    else if isLowSurrogate unit then none
    else (charsOfUnits (next :: rest)).map (Char.ofNat unit :: ·)

/-- The text of a string, unless a surrogate stands alone in it. -/
def textOfUnits (units : List Nat) : Option String :=
  (charsOfUnits units).map String.ofList

/-- The unit that a letter after a backslash stands for. -/
def escapedUnit? (c : Char) : Option Nat :=
  if c = '"' ∨ c = '\\' ∨ c = '/' then some c.toNat
  else if c = 'b' then some 0x08
  else if c = 'f' then some 0x0c
  else if c = 'n' then some 0x0a
  else if c = 'r' then some 0x0d
  else if c = 't' then some 0x09
  else none

/-! ## Words -/

/-- The characters of numbers and of the three literal names. -/
def isWordChar (c : Char) : Bool :=
  c.isAlphanum || c == '+' || c == '-' || c == '.'

/-- The value that a word spells. -/
def wordValue? (word : List Char) : Option Json :=
  if word = "null".toList then some .null
  else if word = "true".toList then some (.bool true)
  else if word = "false".toList then some (.bool false)
  else (NumberText.parse? word).map fun n => .number n.natural? n.isFinite

/-! ## The machine -/

/-- Where the machine stands.  Words and strings are held latest character first. -/
inductive Lexing where
  | between
  | word (held : List Char)
  | inString (units : List Nat)
  /-- Behind a backslash. -/
  | escape (units : List Nat)
  /-- In a four-digit escape, with the value of the digits so far. -/
  | hex (units : List Nat) (missing value : Nat)

/-- One character between lexemes. -/
def Lexing.start (c : Char) : Option (Lexing × List Lexeme) :=
  if c = ' ' ∨ c = '\t' ∨ c = '\n' ∨ c = '\r' then some (.between, [])
  else if c = '[' ∨ c = ']' ∨ c = '\x7b' ∨ c = '\x7d' ∨ c = ',' ∨ c = ':' then
    some (.between, [.mark c])
  else if c = '"' then some (.inString [], [])
  else if isWordChar c then some (.word [c], [])
  else none

/-- One character: the next state and the lexemes that are now complete, or nothing if no JSON
text continues so. -/
def Lexing.step (state : Lexing) (c : Char) : Option (Lexing × List Lexeme) :=
  match state with
  | .between => Lexing.start c
  | .word held =>
    if isWordChar c then some (.word (c :: held), [])
    else do
      let value ← wordValue? held.reverse
      let (next, done) ← Lexing.start c
      return (next, .scalar value :: done)
  | .inString units =>
    if c = '"' then some (.between, [.scalar (.string (textOfUnits units.reverse))])
    else if c = '\\' then some (.escape units, [])
    else if c.toNat < 0x20 then none
    else some (.inString (c.toNat :: units), [])
  | .escape units =>
    if c = 'u' then some (.hex units 4 0, [])
    else (escapedUnit? c).map fun unit => (.inString (unit :: units), [])
  | .hex units missing value =>
    (hexDigit? c).map fun digit =>
      let value := 16 * value + digit
      if missing ≤ 1 then (.inString (value :: units), [])
      else (.hex units (missing - 1) value, [])

/-- The lexemes still open at the end of the text: a word may end there, a string may not. -/
def Lexing.finish : Lexing → Option (List Lexeme)
  | .between => some []
  | .word held => (wordValue? held.reverse).map fun value => [.scalar value]
  | _ => none

/-- Runs the machine to the end of the text.  `done` holds the lexemes so far, latest first. -/
def Lexing.run (state : Lexing) (done : List Lexeme) : List Char → Option (List Lexeme)
  | [] => state.finish.map fun last => done.reverse ++ last
  | c :: rest =>
    match state.step c with
    | some (next, complete) => next.run (complete.reverse ++ done) rest
    | none => none

/-- The lexemes of a text. -/
def lexemes? (text : String) : Option (List Lexeme) :=
  Lexing.run .between [] text.toList

end BooleanSearch
