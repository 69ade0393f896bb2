import BooleanSearch.Event
import BooleanSearch.Fragment.Like

/-!
# Composing a filter

An expression is rendered with a formatter's fragment for each term, the keyword of each
operator between single spaces, and each group in parentheses.  Nothing is trimmed and nothing
is checked: an expression in normal form gives a well-formed filter.  The first term without a
fragment, in reading order, decides the failure.

* `Expression.composeM` — the filter of an expression, whatever else making a fragment does;
* `Expression.compose` — the filter of an expression with a formatter;
* `Expression.composeEvents` — what composing it reports.
-/

namespace BooleanSearch

mutual

/-- The text of one token, with fragments made in any monad. -/
def Token.composeM {m : Type → Type} [Monad m] (f : Term → m String) : Token → m String
  | .bare text => f ⟨text, false⟩
  | .phrase text => f ⟨text, true⟩
  | .operator op => pure (" " ++ op.keyword ++ " ")
  | .group children => do
    let inner ← Expression.composeM f children
    return "(" ++ inner ++ ")"

/-- The text of an expression, with fragments made in any monad. -/
def Expression.composeM {m : Type → Type} [Monad m] (f : Term → m String) : Expression → m String
  | [] => pure ""
  | t :: ts => do
    let first ← t.composeM f
    let rest ← Expression.composeM f ts
    return first ++ rest

end

/-- The text of one token. -/
def Token.compose (f : Formatter) (t : Token) : Except FormatError String :=
  t.composeM f

/-- The filter of an expression, or the failure of its first term that has no fragment. -/
def Expression.compose (f : Formatter) (e : Expression) : Except FormatError String :=
  Expression.composeM f e

/-- A computation that goes on after a first step succeeds if both parts do. -/
theorem bind_eq_ok_iff {ε α β : Type} {x : Except ε α} {next : α → Except ε β} {b : β} :
    x >>= next = .ok b ↔ ∃ a, x = .ok a ∧ next a = .ok b := by
  cases x with
  | error failure => exact ⟨nofun, nofun⟩
  | ok a =>
    constructor
    · intro h
      exact ⟨a, rfl, h⟩
    · intro h
      obtain ⟨a', ha, h⟩ := h
      rw [Except.ok.inj ha]
      exact h

/-- A group is composed if its inside is. -/
theorem Token.compose_group_eq_ok_iff {f : Formatter} {children : Expression} {text : String} :
    (Token.group children).compose f = .ok text ↔
      ∃ inner, Expression.compose f children = .ok inner ∧ "(" ++ inner ++ ")" = text := by
  simp only [Token.compose, Token.composeM, Expression.compose, bind_eq_ok_iff, pure, Except.pure,
    Except.ok.injEq]

/-- A level is composed if each of its tokens is. -/
theorem Expression.compose_cons_eq_ok_iff {f : Formatter} {t : Token} {ts : Expression}
    {text : String} :
    Expression.compose f (t :: ts) = .ok text ↔ ∃ first, t.compose f = .ok first ∧
      ∃ rest, Expression.compose f ts = .ok rest ∧ first ++ rest = text := by
  simp only [Expression.compose, Expression.composeM, Token.compose, bind_eq_ok_iff, pure,
    Except.pure, Except.ok.injEq]

/-- Composing reports its outermost tokens and the bytes written; a failure reports nothing. -/
def Expression.composeEvents (f : Formatter) (e : Expression) : List Event :=
  match Expression.compose f e with
  | .ok text => [.composed e.length text.utf8ByteSize]
  | .error _ => []

end BooleanSearch
