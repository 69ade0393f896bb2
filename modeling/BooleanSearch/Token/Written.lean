import BooleanSearch.Token

/-!
# Written form

An expression is written back as the text of a search: terms as they are, phrases in double
quotes, operators between single spaces, groups in parentheses.  Each level is trimmed, so an
operator at either end of a level loses its outer space.

* `Expression.written` — the characters of one level before trimming;
* `Expression.reconstruct` — the text of the whole expression.
-/

namespace BooleanSearch

mutual

/-- The characters of one token. -/
def Token.written : Token → List Char
  | .bare text => text.toList
  | .phrase text => '"' :: text.toList ++ ['"']
  | .operator op => ' ' :: op.keyword.toList ++ [' ']
  | .group children => '(' :: trim (Expression.written children) ++ [')']

/-- The characters of one level, not yet trimmed at its ends. -/
def Expression.written : Expression → List Char
  | [] => []
  | t :: ts => t.written ++ Expression.written ts

end

/-- The expression as text that a reader takes. -/
def Expression.reconstruct (e : Expression) : String :=
  String.ofList (trim (Expression.written e))

end BooleanSearch
