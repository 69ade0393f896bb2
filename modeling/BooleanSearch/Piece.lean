import BooleanSearch.Operator

/-!
# Pieces of one level

One level of a search expression is cut into pieces in a single pass, which does not look inside a
group.

* `Mode.next` is an automaton of three states over the characters: bare text, inside a quoted
  phrase, inside a group.  Quotes have no meaning inside a group's text, and a closing parenthesis
  in bare text is ordinary text;
* `Mode.isBorder` — the characters at which the automaton enters or leaves a phrase or a group;
* `Mode.leading?` — operators, which are looked for in bare text only;
* `cutPieces` — the pass: a piece ends at a border, at an operator and at the end of the text, where
  whatever is open is closed;
* `pieces` — the pieces of a level, after trimming it.  A space goes in front so that an operator
  may open the level.
-/

namespace BooleanSearch

/-- What a character of the level stands in. -/
inductive Mode where
  /-- Bare text. -/
  | bare
  /-- A quoted phrase. -/
  | phrase
  /-- A group in which `nesting` further parentheses are open. -/
  | group (nesting : Nat)
  deriving DecidableEq, Repr

/-- The state after one character. -/
def Mode.next : Mode → Char → Mode
  | .bare, c => if c = '"' then .phrase else if c = '(' then .group 0 else .bare
  | .phrase, c => if c = '"' then .bare else .phrase
  | .group nesting, c =>
    if c = '(' then .group (nesting + 1)
    else if c = ')' then
      match nesting with
      | 0 => .bare
      | n + 1 => .group n
    else .group nesting

/-- Does the character border the region, so that it belongs to no region's text? -/
def Mode.isBorder : Mode → Char → Bool
  | .bare, c => c == '"' || c == '('
  | .phrase, c => c == '"'
  | .group nesting, c => nesting == 0 && c == ')'

/-- A stretch of one level: text of one kind as it was written, or an operator. -/
inductive Piece where
  | bare (text : List Char)
  | phrase (text : List Char)
  | group (text : List Char)
  | operator (op : Operator)
  deriving DecidableEq, Repr

/-- The piece that text read in a mode makes. -/
def Mode.piece : Mode → List Char → Piece
  | .bare, text => .bare text
  | .phrase, text => .phrase text
  | .group _, text => .group text

/-- The operator at the front of a text, which is looked for in bare text only. -/
def Mode.leading? : Mode → List Char → Option Operator
  | .bare, text => Operator.leading? text
  | _, _ => none

/-- Cuts text into pieces.  `held` is the text of the current piece so far, latest character first,
and `passing` counts the characters of an operator that are still to be passed over. -/
def cutPieces : (mode : Mode) → (held : List Char) → (passing : Nat) → List Char → List Piece
  | mode, held, _, [] => [mode.piece held.reverse]
  | mode, held, passing + 1, _ :: rest => cutPieces mode held passing rest
  | mode, held, 0, c :: rest =>
    match mode.leading? (c :: rest) with
    | some op =>
      mode.piece held.reverse :: .operator op :: cutPieces mode [] (op.keyword.length + 1) rest
    | none =>
      if mode.isBorder c then mode.piece held.reverse :: cutPieces (mode.next c) [] 0 rest
      else cutPieces (mode.next c) (c :: held) 0 rest

/-- The pieces of one level, in the order in which they were written. -/
def pieces (text : List Char) : List Piece :=
  cutPieces .bare [] 0 (' ' :: trim text)

end BooleanSearch
