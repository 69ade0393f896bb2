import BooleanSearch.Query

/-!
# Sessions

A session edits an expression step by step.  It holds a reader and the expression, at first
empty; a step that fails changes nothing.

* `Step` — what can be done;
* `Session.apply` — one step: its result and the session after it.
-/

namespace BooleanSearch

/-- A reader and the expression that is being edited. -/
structure Session where
  reader : Tokenizer := .default
  expression : Expression := []
  deriving DecidableEq, Repr

/-- One step of a session. -/
inductive Step where
  | limitDepth (maxDepth : Nat)
  | tokenize (text : String)
  | append (text : String)
  | pushOperator (keyword : String)
  | push (token : Token)
  /-- Puts the whole expression into one group. -/
  | wrap
  /-- Replaces the expression by the inside of its first token. -/
  | unwrap
  | pop
  | reverse
  | filter
  /-- Reads the written form again. -/
  | retokenize
  | toQuery
  | compose (formatter : Formatter)
  | terms

/-- What a step answers besides the session after it. -/
inductive StepResult where
  | nothing
  | token (token : Token)
  | text (text : String)
  | terms (terms : List Term)
  deriving DecidableEq, Repr

/-- Why a step fails. -/
inductive StepError where
  | unknownOperator (cause : UnknownOperator)
  | notAGroup
  | format (cause : FormatError)
  deriving DecidableEq, Repr

/-- The session with another expression. -/
def Session.withExpression (s : Session) (e : Expression) : StepResult × Session :=
  (.nothing, { s with expression := e })

/-- One step: its result and the session after it, or the failure that leaves the session as it
is. -/
def Session.apply (s : Session) : Step → Except StepError (StepResult × Session)
  | .limitDepth maxDepth => .ok (.nothing, { s with reader := .ofMaxDepth maxDepth })
  | .tokenize text => .ok (s.withExpression (s.reader.tokenize text))
  | .append text => .ok (s.withExpression (s.expression ++ s.reader.tokenize text))
  | .pushOperator keyword => do
    let op ← (Operator.parse keyword).mapError .unknownOperator
    return s.withExpression (s.expression ++ [.operator op])
  | .push token => .ok (s.withExpression (s.expression ++ [token]))
  | .wrap => .ok (s.withExpression [.group s.expression])
  | .unwrap =>
    match s.expression.head?.bind Token.children? with
    | some children => .ok (s.withExpression children)
    | none => .error .notAGroup
  | .pop =>
    let result := match s.expression.getLast? with
      | some token => .token token
      | none => .nothing
    .ok (result, { s with expression := s.expression.dropLast })
  | .reverse => .ok (s.withExpression s.expression.reverse)
  | .filter => .ok (s.withExpression s.expression.filter)
  | .retokenize => .ok (s.withExpression (s.reader.tokenize s.expression.reconstruct))
  | .toQuery => .ok (s.withExpression (Query.ofExpression s.expression).expression)
  | .compose formatter => do
    let text ← (s.expression.compose formatter).mapError .format
    return (.text text, s)
  | .terms => .ok (.terms (Query.ofExpression s.expression).terms, s)

end BooleanSearch
