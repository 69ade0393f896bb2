import BooleanSearch.Json.Reader
import BooleanSearch.Token

/-!
# Expressions as JSON

A token is written as an object of a type and a value; an expression is an array of tokens.
Reading takes more than writing gives: the two members in either order, further members, which
are ignored, and the pair of type and value as an array.

* `Expression.json` — the compact JSON text;
* `Expression.ofJson?` — the expression of a JSON tree;
* `Expression.parseJson?` — the expression of a JSON text.
-/

namespace BooleanSearch

/-! ## Writing -/

mutual

/-- The text of a token, in the chunks in which it is written. -/
def Token.jsonChunks : Token → List String
  | .bare text => ["\x7b\"type\":\"value\",\"value\":", jsonString text, "\x7d"]
  | .phrase text => ["\x7b\"type\":\"exact_value\",\"value\":", jsonString text, "\x7d"]
  | .operator op => ["\x7b\"type\":\"operator\",\"value\":", jsonString op.keyword, "\x7d"]
  | .group [] => ["\x7b\"type\":\"sub_expr\",\"value\":[", "]\x7d"]
  | .group (t :: ts) =>
    ["\x7b\"type\":\"sub_expr\",\"value\":["] ++ t.jsonChunks ++ Expression.moreJsonChunks ts ++
      ["]\x7d"]

/-- The tokens behind the first one, each after a comma. -/
def Expression.moreJsonChunks : Expression → List String
  | [] => []
  | t :: ts => "," :: t.jsonChunks ++ Expression.moreJsonChunks ts

end

/-- The chunks in which an expression is written. -/
def Expression.jsonChunks : Expression → List String
  | [] => ["[", "]"]
  | t :: ts => ["["] ++ t.jsonChunks ++ Expression.moreJsonChunks ts ++ ["]"]

/-- The compact JSON text of an expression. -/
def Expression.json (e : Expression) : String :=
  String.join e.jsonChunks

/-! ## Reading -/

/-- The four types of tokens. -/
inductive TokenType where
  | bare
  | phrase
  | operator
  | group
  deriving DecidableEq, Repr

/-- The name by which a type is written. -/
def TokenType.name : TokenType → String
  | .bare => "value"
  | .phrase => "exact_value"
  | .operator => "operator"
  | .group => "sub_expr"

/-- The types in the order in which they are numbered. -/
def TokenType.all : List TokenType :=
  [.bare, .phrase, .operator, .group]

/-- The type of a name. -/
def TokenType.ofName? (name : String) : Option TokenType :=
  TokenType.all.find? fun t => t.name == name

/-- A name stands alone or as the one member of an object with nothing as its value.  In a value
that was `kept` before its type was known, an empty object is nothing too. -/
def Json.name? (kept : Bool) : Json → Option String
  | .string text? => text?
  | .object [(some name, .null)] => some name
  | .object [(some name, .object [])] => if kept then some name else none
  | _ => none

/-- The type at the head of a pair: a name that stands alone, or in a value that was `kept` also
the number of a type. -/
def TokenType.ofHead? (kept : Bool) : Json → Option TokenType
  | .string (some name) => TokenType.ofName? name
  | .number (some n) _ => if kept then TokenType.all[n]? else none
  | _ => none

/-- A token taken apart: the type, the value, and whether the value had to be kept until the type
was known. -/
structure TokenParts where
  type : TokenType
  value : Json
  kept : Bool

/-- The two members of a token's object, each exactly once among the others.  `kept` says whether
the object is part of a value that was kept. -/
def TokenParts.ofMembers? (kept : Bool) (members : List (Option String × Json)) :
    Option TokenParts := do
  guard (members.all fun member => member.1.isSome)
  match members.filter fun member => member.1 == some "type" || member.1 == some "value" with
  | [(some "type", type), (some "value", value)] =>
    return ⟨← TokenType.ofName? (← type.name? kept), value, false⟩
  | [(some "value", value), (some "type", type)] =>
    return ⟨← TokenType.ofName? (← type.name? kept), value, true⟩
  | _ => none

/-- Takes a token apart, which is an object or a pair of type and value. -/
def TokenParts.ofJson? (kept : Bool) : Json → Option TokenParts
  | .array [type, value] => (TokenType.ofHead? kept type).map fun type => ⟨type, value, false⟩
  | .object members => TokenParts.ofMembers? kept members
  | _ => none

/-- The token of a JSON value whose groups nest less than `levels` deep.  A value kept until its
type is known has to be lossless as a whole, and it counts against the containers that may nest
below the token: two for each level, and the array of the innermost one. -/
def Token.ofJson? (kept : Bool) : (levels : Nat) → Json → Option Token
  | 0, _ => none
  | levels + 1, json => do
    let parts ← TokenParts.ofJson? kept json
    guard (!parts.kept || parts.value.isLossless (2 * levels + 1))
    let kept := kept || parts.kept
    match parts.type, parts.value with
    | .bare, .string (some text) => return .bare text
    | .phrase, .string (some text) => return .phrase text
    | .operator, value => return .operator (← (Operator.parse (← value.name? kept)).toOption)
    | .group, .array items =>
      return .group (← items.mapM fun item => Token.ofJson? kept levels item)
    | _, _ => none

/-- Expressions nest at most so many levels in JSON, the outermost one included. -/
def jsonLevels : Nat := 63

/-- The expression of a JSON tree. -/
def Expression.ofJson? : Json → Option Expression
  | .array items => items.mapM fun item => Token.ofJson? false jsonLevels item
  | _ => none

/-- The expression of a JSON text. -/
def Expression.parseJson? (text : String) : Option Expression :=
  (Json.parse? text).bind Expression.ofJson?

end BooleanSearch
