import BooleanSearch.Json.Lexeme

/-!
# Reading JSON

The lexemes of a JSON text are folded into a tree.  The containers that are open wait on a
stack, so how deep a text nests is bounded by its length only.

* `Json.Partial.step` — one lexeme;
* `Json.parse?` — the value of a text that holds exactly one, with white space around it.
-/

namespace BooleanSearch

/-- A container that is still open, with what it holds so far, latest first. -/
inductive Json.Frame where
  | array (items : List Json)
  /-- An object whose member `name?` waits for its value. -/
  | object (members : List (Option String × Json)) (name? : Option String)

/-- A JSON text read in part. -/
inductive Json.Partial where
  /-- A value has to follow. -/
  | value (stack : List Json.Frame)
  /-- An array has been opened. -/
  | opened (stack : List Json.Frame)
  /-- A value is complete. -/
  | after (json : Json) (stack : List Json.Frame)
  /-- A member's name has to follow; the first may be missing. -/
  | name (isFirst : Bool) (members : List (Option String × Json)) (stack : List Json.Frame)
  /-- A colon has to follow a member's name. -/
  | colon (members : List (Option String × Json)) (name? : Option String)
      (stack : List Json.Frame)

/-- A lexeme where a value has to begin. -/
def Json.Partial.begin (stack : List Json.Frame) : Lexeme → Option Json.Partial
  | .mark c =>
    if c = '[' then some (.opened stack)
    else if c = '\x7b' then some (.name true [] stack)
    else none
  | .scalar json => some (.after json stack)

/-- One lexeme, or nothing if no JSON text continues so. -/
def Json.Partial.step : Json.Partial → Lexeme → Option Json.Partial
  | .value stack, lexeme => Json.Partial.begin stack lexeme
  | .opened stack, .mark ']' => some (.after (.array []) stack)
  | .opened stack, lexeme => Json.Partial.begin (.array [] :: stack) lexeme
  | .after json (.array items :: stack), .mark c =>
    if c = ',' then some (.value (.array (json :: items) :: stack))
    else if c = ']' then some (.after (.array (json :: items).reverse) stack)
    else none
  | .after json (.object members name? :: stack), .mark c =>
    if c = ',' then some (.name false ((name?, json) :: members) stack)
    else if c = '\x7d' then some (.after (.object ((name?, json) :: members).reverse) stack)
    else none
  | .name _ members stack, .scalar (.string name?) => some (.colon members name? stack)
  | .name isFirst _ stack, .mark c =>
    if isFirst && c == '\x7d' then some (.after (.object []) stack) else none
  | .colon members name? stack, .mark ':' => some (.value (.object members name? :: stack))
  | _, _ => none

/-- The value of a JSON text. -/
def Json.parse? (text : String) : Option Json := do
  let lexemes ← lexemes? text
  match ← lexemes.foldlM Json.Partial.step (.value []) with
  | .after json [] => some json
  | _ => none

end BooleanSearch
