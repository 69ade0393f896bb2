import BooleanSearch.Fragment.Compose
import BooleanSearch.NormalForm.Repaired
import BooleanSearch.Token.Written
import BooleanSearch.Tokenizer

/-!
# Queries

A query is an expression with the proof that it is in normal form.  It is made from text or from
any expression, by repair.

* `Query.parse`, `Query.ofExpression` — the two ways to make one;
* `Query.text` — the query as search text;
* `Query.compose`, `composeText`, `composeLike` — the query as a filter.
-/

namespace BooleanSearch

/-- A search expression in normal form. -/
@[ext]
structure Query where
  expression : Expression
  normal : expression.isNormalised = true
  deriving DecidableEq, Repr

/-- The query of an expression: what repair makes of it. -/
def Query.ofExpression (e : Expression) : Query :=
  ⟨e.filter, e.isNormalised_filter⟩

/-- The query of a text. -/
def Query.parse (reader : Tokenizer) (text : String) : Query :=
  .ofExpression (reader.tokenize text)

/-- What parsing a query reports. -/
def Query.parseEvents (reader : Tokenizer) (text : String) : List Event :=
  reader.events text ++ (reader.tokenize text).filterEvents

/-- An empty query looks for nothing. -/
def Query.isEmpty (q : Query) : Bool :=
  q.expression.isEmpty

/-- The leaf terms in reading order. -/
def Query.terms (q : Query) : List Term :=
  q.expression.terms

/-- The query as search text. -/
def Query.text (q : Query) : String :=
  q.expression.reconstruct

/-- The query as a filter. -/
def Query.compose (f : Formatter) (q : Query) : Except FormatError String :=
  q.expression.compose f

/-- What composing a query reports. -/
def Query.composeEvents (f : Formatter) (q : Query) : List Event :=
  q.expression.composeEvents f

/-- The filter of a search text, read with the usual depth limit. -/
def composeText (f : Formatter) (text : String) : Except FormatError String :=
  (Query.parse .default text).compose f

/-- The `LIKE` filter of a search text over a column, or over a template if a marker is given.
A text without tokens gives the empty filter before the template is looked at. -/
def composeLike (text source : String) (marker? : Option String) : Except FormatError String := do
  let query := Query.parse .default text
  if query.isEmpty then return ""
  let dataSource ← DataSource.parse source marker?
  query.compose (LikeFormatter.format { source := dataSource })

end BooleanSearch
