import BooleanSearch.Operator

/-!
# Search expressions

A search expression is a list of tokens, and a group token holds an expression of its own.

* `Token`, `Expression` — the tree, with decidable equality;
* `Token.isOperator`, `Token.operator?`, `Token.children?` — what a token is;
* `Expression.asGroup` — an expression put into a group, unless it is empty;
* `Expression.terms` — the leaf terms in reading order;
* `Expression.depth`, `Expression.count` — how deep groups nest and how many tokens there are.
-/

namespace BooleanSearch

/-- A classified fragment of a search expression. -/
inductive Token where
  /-- A bare search term. -/
  | bare (text : String)
  /-- A double-quoted phrase, kept as it was written. -/
  | phrase (text : String)
  /-- A Boolean operator. -/
  | operator (op : Operator)
  /-- A parenthesised group. -/
  | group (children : List Token)
  deriving Repr

/-- One level of a search expression, with its groups inside. -/
abbrev Expression := List Token

/-! ## Equality -/

mutual

/-- Equality of tokens is decidable. -/
def Token.decEq : (a b : Token) → Decidable (a = b)
  | .bare s, .bare t =>
    if h : s = t then isTrue (h ▸ rfl) else isFalse fun e => h (Token.bare.inj e)
  | .phrase s, .phrase t =>
    if h : s = t then isTrue (h ▸ rfl) else isFalse fun e => h (Token.phrase.inj e)
  | .operator p, .operator q =>
    if h : p = q then isTrue (h ▸ rfl) else isFalse fun e => h (Token.operator.inj e)
  | .group ts, .group us =>
    match Expression.decEq ts us with
    | isTrue h => isTrue (h ▸ rfl)
    | isFalse h => isFalse fun e => h (Token.group.inj e)
  | .bare _, .phrase _ | .bare _, .operator _ | .bare _, .group _ => isFalse nofun
  | .phrase _, .bare _ | .phrase _, .operator _ | .phrase _, .group _ => isFalse nofun
  | .operator _, .bare _ | .operator _, .phrase _ | .operator _, .group _ => isFalse nofun
  | .group _, .bare _ | .group _, .phrase _ | .group _, .operator _ => isFalse nofun

/-- Equality of expressions is decidable. -/
def Expression.decEq : (a b : List Token) → Decidable (a = b)
  | [], [] => isTrue rfl
  | [], _ :: _ | _ :: _, [] => isFalse nofun
  | t :: ts, u :: us =>
    match Token.decEq t u, Expression.decEq ts us with
    | isTrue h, isTrue h' => isTrue (h ▸ h' ▸ rfl)
    | isFalse h, _ => isFalse fun e => h (List.cons.inj e).1
    | _, isFalse h => isFalse fun e => h (List.cons.inj e).2

end

instance : DecidableEq Token := Token.decEq

/-! ## Classes of tokens -/

/-- Operators form one class; terms, phrases and groups form the other. -/
def Token.isOperator : Token → Bool
  | .operator _ => true
  | _ => false

/-- An operand may stand on either side of an operator. -/
def Token.isOperand (t : Token) : Bool :=
  !t.isOperator

/-- The operator that the token carries, if it is one. -/
def Token.operator? : Token → Option Operator
  | .operator op => some op
  | _ => none

/-- The expression inside a group. -/
def Token.children? : Token → Option Expression
  | .group children => some children
  | _ => none

/-- A group token, unless there is nothing to put into it. -/
def Expression.asGroup : Expression → Expression
  | [] => []
  | t :: ts => [.group (t :: ts)]

theorem Expression.asGroup_inj {e e' : Expression} : e.asGroup = e'.asGroup ↔ e = e' := by
  cases e <;> cases e' <;> simp [Expression.asGroup]

/-! ## Leaf terms -/

/-- A leaf of an expression: its text, and whether it was a quoted phrase. -/
structure Term where
  text : String
  exact : Bool
  deriving DecidableEq, Repr

mutual

/-- The leaf terms of one token. -/
def Token.terms : Token → List Term
  | .bare text => [⟨text, false⟩]
  | .phrase text => [⟨text, true⟩]
  | .operator _ => []
  | .group children => Expression.terms children

/-- The leaf terms in reading order, groups included. -/
def Expression.terms : Expression → List Term
  | [] => []
  | t :: ts => t.terms ++ Expression.terms ts

end

theorem Expression.terms_eq_flatMap (e : Expression) :
    Expression.terms e = e.flatMap Token.terms := by
  induction e with
  | nil => rfl
  | cons t ts ih => rw [Expression.terms, ih, List.flatMap_cons]

theorem Expression.terms_append (e e' : Expression) :
    Expression.terms (e ++ e') = Expression.terms e ++ Expression.terms e' := by
  simp only [Expression.terms_eq_flatMap, List.flatMap_append]

theorem Expression.terms_asGroup (e : Expression) : Expression.terms e.asGroup = e.terms := by
  cases e with
  | nil => rfl
  | cons t ts => exact List.append_nil _

/-! ## Measures -/

mutual

/-- How many groups nest in one token. -/
def Token.depth : Token → Nat
  | .group children => Expression.depth children + 1
  | _ => 0

/-- The deepest nesting of groups; zero when there is none. -/
def Expression.depth : Expression → Nat
  | [] => 0
  | t :: ts => max t.depth (Expression.depth ts)

end

mutual

/-- The tokens of one token: a group counts itself and all it holds. -/
def Token.count : Token → Nat
  | .group children => Expression.count children + 1
  | _ => 1

/-- The tokens of the whole tree. -/
def Expression.count : Expression → Nat
  | [] => 0
  | t :: ts => t.count + Expression.count ts

end

end BooleanSearch
