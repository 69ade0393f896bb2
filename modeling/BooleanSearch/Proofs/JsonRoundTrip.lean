import BooleanSearch.Proofs.Delivery
import BooleanSearch.Proofs.JsonReading
import Mathlib.Data.Option.Basic

/-!
# Expressions survive JSON

The JSON text of an expression is read back as the expression, whatever its terms hold, as long as
its containers do not nest deeper than the reader allows; beyond that it is refused.

* `Token.tree` — the JSON tree of a token;
* `Expression.containers` — how deep the containers of an expression's JSON text nest;
* `Expression.parse?_json` — the text is the text of the tree;
* `Expression.mapM_ofJson?_trees` — the tree is the tree of the expression, up to the bound;
* `Expression.parseJson?_json` — both together, for the text that a report prints.
-/

namespace BooleanSearch

mutual

/-- The JSON tree of a token. -/
def Token.tree : Token → Json
  | .bare text => Json.tagged TokenType.bare.name (.string (some text))
  | .phrase text => Json.tagged TokenType.phrase.name (.string (some text))
  | .operator op => Json.tagged TokenType.operator.name (.string (some op.keyword))
  | .group children => Json.tagged TokenType.group.name (.array (Expression.trees children))

/-- The JSON trees of the tokens of an expression. -/
def Expression.trees : Expression → List Json
  | [] => []
  | t :: ts => t.tree :: Expression.trees ts

end

mutual

/-- How many containers of a token's JSON text stand in each other at most: its object, and for a
group the array of its children. -/
def Token.containers : Token → Nat
  | .bare _ | .phrase _ | .operator _ => 1
  | .group children => Expression.containers children + 1

/-- How many containers of an expression's JSON text stand in each other at most. -/
def Expression.containers : Expression → Nat
  | [] => 1
  | t :: ts => max (t.containers + 1) (Expression.containers ts)

end

/-! ## From text to trees -/

/-- The text in front of the value of a token. -/
def TokenType.opening : TokenType → String
  | .bare => "\x7b\"type\":\"value\",\"value\":"
  | .phrase => "\x7b\"type\":\"exact_value\",\"value\":"
  | .operator => "\x7b\"type\":\"operator\",\"value\":"
  | .group => "\x7b\"type\":\"sub_expr\",\"value\":"

/-- A value behind the opening of a type is read as an object with the type's name. -/
theorem ReadsAsJson.ofType (type : TokenType) {text : List Char} {json : Json}
    (h : ReadsAsJson text json) :
    ReadsAsJson (type.opening.toList ++ text ++ ['\x7d']) (Json.tagged type.name json) := by
  have hopening : type.opening = tagText type.name := by cases type <;> decide
  rw [hopening]
  exact h.tagged type.name

mutual

/-- **The text of a token** is read as its tree. -/
theorem Token.readsAsJson : (t : Token) → ReadsAsJson (t.jsonChunks.flatMap String.toList) t.tree
  | .bare text => by
    have h := (readsAsJson_jsonString text).ofType .bare
    simpa [Token.jsonChunks, Token.tree, TokenType.opening] using h
  | .phrase text => by
    have h := (readsAsJson_jsonString text).ofType .phrase
    simpa [Token.jsonChunks, Token.tree, TokenType.opening] using h
  | .operator op => by
    have h := (readsAsJson_jsonString op.keyword).ofType .operator
    simpa [Token.jsonChunks, Token.tree, TokenType.opening] using h
  | .group [] => by
    have h := ReadsAsJson.array_nil.ofType .group
    simpa [Token.jsonChunks, Token.tree, TokenType.opening, Expression.trees] using h
  | .group (t :: ts) => by
    have h := (t.readsAsJson.array_cons (Expression.readsAsRest ts)).ofType .group
    simpa [Token.jsonChunks, Token.tree, TokenType.opening, Expression.trees] using h

/-- The text behind the first token of an array is read as the trees of the other tokens. -/
theorem Expression.readsAsRest : (ts : Expression) →
    ReadsAsRest ((Expression.moreJsonChunks ts).flatMap String.toList ++ [']'])
      (Expression.trees ts)
  | [] => ReadsAsRest.nil
  | t :: ts => by
    have h := ReadsAsRest.cons t.readsAsJson (Expression.readsAsRest ts)
    simpa [Expression.moreJsonChunks, Expression.trees] using h

end

/-- The text of an expression is parsed to its trees. -/
theorem Expression.parse?_json (e : Expression) :
    Json.parse? e.json = some (.array (Expression.trees e)) := by
  apply ReadsAsJson.parse?_eq
  rw [Expression.json, String.toList_join]
  cases e with
  | nil => exact ReadsAsJson.array_nil
  | cons t ts =>
    have h := t.readsAsJson.array_cons (Expression.readsAsRest ts)
    simpa [Expression.jsonChunks, Expression.trees] using h

/-! ## From trees to tokens -/

/-- An object with the name of a type is taken apart, and its value is not kept. -/
theorem TokenParts.ofJson?_tagged (type : TokenType) (value : Json) :
    TokenParts.ofJson? false (Json.tagged type.name value) = some ⟨type, value, false⟩ := by
  cases type <;> rfl

/-- The token of an object with the name of a type. -/
theorem Token.ofJson?_tagged (levels : Nat) (type : TokenType) (value : Json) :
    Token.ofJson? false (levels + 1) (Json.tagged type.name value) =
      match type, value with
      | .bare, .string (some text) => some (.bare text)
      | .phrase, .string (some text) => some (.phrase text)
      | .operator, value => do
        return .operator (← (Operator.parse (← value.name? false)).toOption)
      | .group, .array items => do
        return .group (← items.mapM fun item => Token.ofJson? false levels item)
      | _, _ => none := by
  rw [Token.ofJson?, TokenParts.ofJson?_tagged]
  rfl

mutual

/-- **The tree of a token** is read as the token, unless its containers nest too deep. -/
theorem Token.ofJson?_tree : (levels : Nat) → (t : Token) →
    Token.ofJson? false levels t.tree = if t.containers ≤ 2 * levels then some t else none
  | 0, t => by
    have hpos : 0 < t.containers := by cases t <;> simp [Token.containers]
    rw [Token.ofJson?, if_neg (by omega)]
  | levels + 1, .bare text => by
    rw [Token.tree, Token.ofJson?_tagged, Token.containers, if_pos (by omega)]
  | levels + 1, .phrase text => by
    rw [Token.tree, Token.ofJson?_tagged, Token.containers, if_pos (by omega)]
  | levels + 1, .operator op => by
    rw [Token.tree, Token.ofJson?_tagged, Token.containers, if_pos (by omega)]
    cases op <;> rfl
  | levels + 1, .group children => by
    have h := Expression.mapM_ofJson?_trees levels children
    have hbound : Expression.containers children ≤ 2 * levels + 1 ↔
        Expression.containers children + 1 ≤ 2 * (levels + 1) := by omega
    rw [Token.tree, Token.ofJson?_tagged, Token.containers]
    simp only [h, hbound]
    split <;> rfl

/-- The trees of an expression are read as the expression, unless its containers nest too deep. -/
theorem Expression.mapM_ofJson?_trees : (levels : Nat) → (e : Expression) →
    (Expression.trees e).mapM (fun tree => Token.ofJson? false levels tree) =
      if Expression.containers e ≤ 2 * levels + 1 then some e else none
  | levels, [] => by
    rw [Expression.containers, if_pos (by omega)]
    rfl
  | levels, t :: ts => by
    have hbound : t.containers ≤ 2 * levels ↔ t.containers + 1 ≤ 2 * levels + 1 := by omega
    rw [Expression.trees, List.mapM_cons, Token.ofJson?_tree levels t,
      Expression.mapM_ofJson?_trees levels ts, Expression.containers]
    simp only [hbound, Nat.max_le]
    by_cases hfirst : t.containers + 1 ≤ 2 * levels + 1
    · by_cases hrest : Expression.containers ts ≤ 2 * levels + 1
      · simp [hfirst, hrest]
      · simp [hfirst, hrest]
    · simp [hfirst]

end

/-! ## From expressions to expressions -/

/-- **An expression survives JSON.**  A report prints its JSON text and a line break, and the text
holds the trees of its tokens.  It is read as the expression, whatever the terms hold, exactly if at
most 127 of its containers stand in each other. -/
theorem Expression.parseJson?_json (e : Expression) :
    (Report.json e).deliver {} = ⟨e.json ++ "\n", none⟩ ∧
      Json.parse? e.json = some (.array (Expression.trees e)) ∧
      Expression.parseJson? e.json = if Expression.containers e ≤ 127 then some e else none := by
  have htrees := Expression.parse?_json e
  refine ⟨(Report.json e).deliver_unlimited, htrees, ?_⟩
  rw [Expression.parseJson?, htrees]
  exact Expression.mapM_ofJson?_trees jsonLevels e

end BooleanSearch
