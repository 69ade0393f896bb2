import BooleanSearch.Event
import BooleanSearch.Piece
import BooleanSearch.Token

/-!
# From text to expressions

Reading never fails.  A level is cut into pieces, a blank piece gives no token, and the text of
a group is read as a level of its own as long as the depth limit leaves room; a group below the
limit stays a bare term with its parentheses.

* `Tokenizer` — a reader with a depth limit of at most `Tokenizer.ceiling`;
* `scan` — one level under the room that is left, by recursion on that room;
* `Tokenizer.tokenize` — the expression of a text;
* `Tokenizer.events` — what reading the text reports, in the order of reading.
-/

namespace BooleanSearch

/-! ## One level -/

/-- The tokens of a piece, at most one.  `group` reads the trimmed text of a group that is not
blank. -/
def Piece.tokens (group : List Char → Expression) : Piece → Expression
  | .bare text => if isBlank text then [] else [.bare (String.ofList (trim text))]
  | .phrase text => if isBlank text then [] else [.phrase (String.ofList text)]
  | .group text => if isBlank text then [] else group (trim text)
  | .operator op => [.operator op]

/-- Text in parentheses. -/
def bracketed (text : List Char) : List Char :=
  '(' :: text ++ [')']

/-- The expression of a text that may nest groups `room` levels deep. -/
def scan : (room : Nat) → List Char → Expression
  | 0, text =>
    (pieces text).flatMap (Piece.tokens fun inner => [.bare (String.ofList (bracketed inner))])
  | room + 1, text =>
    (pieces text).flatMap (Piece.tokens fun inner => (scan room inner).asGroup)

/-- The events of a piece.  `group` reports on the trimmed text of a group that is not blank. -/
def Piece.events (depth : Nat) (group : List Char → List Event) : Piece → List Event
  | .bare _ | .phrase _ => []
  | .group text => if isBlank text then [] else group (trim text)
  | .operator op => [.operatorRead op depth]

/-- The events of reading a text at `depth` with `room` left: operators where they stand, a
group's events where the group stands. -/
def scanEvents : (room depth : Nat) → List Char → List Event
  | 0, depth, text => (pieces text).flatMap (Piece.events depth fun _ => [.groupKept depth])
  | room + 1, depth, text =>
    (pieces text).flatMap (Piece.events depth fun inner => scanEvents room (depth + 1) inner)

/-! ## The reader -/

/-- No limit above this one is used, so the recursion stays bounded whatever is asked for. -/
def Tokenizer.ceiling : Nat := 256

/-- A reader of search expressions that expands groups down to a depth limit. -/
structure Tokenizer where
  maxDepth : Nat := 64
  maxDepth_le : maxDepth ≤ Tokenizer.ceiling := by decide
  deriving DecidableEq, Repr

/-- The reader with the usual limit. -/
def Tokenizer.default : Tokenizer := {}

/-- A reader with the given limit, or with the ceiling if that is lower.  Zero leaves every group
a bare term. -/
def Tokenizer.ofMaxDepth (maxDepth : Nat) : Tokenizer where
  maxDepth := min maxDepth Tokenizer.ceiling
  maxDepth_le := Nat.min_le_right ..

/-- The expression of a text. -/
def Tokenizer.tokenize (t : Tokenizer) (text : String) : Expression :=
  scan t.maxDepth text.toList

/-- What reading a text reports: its operators and kept groups in reading order, and last the
number of outermost tokens. -/
def Tokenizer.events (t : Tokenizer) (text : String) : List Event :=
  scanEvents t.maxDepth 0 text.toList ++ [.tokenised (t.tokenize text).length]

end BooleanSearch
