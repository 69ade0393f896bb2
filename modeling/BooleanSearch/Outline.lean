import BooleanSearch.Text.Character
import BooleanSearch.Text.Printable
import BooleanSearch.Token

/-!
# Outlines

An outline shows an expression with one token on each line, two spaces further in for each group
around it.  Texts stand in double quotes and never break a line.

* `quotedText` — a text in quotes, on one line;
* `Token.outlineLine` — the line of a token without its indentation;
* `Expression.outline` — the whole outline.
-/

namespace BooleanSearch

/-- A character as it stands in an outline: some by name, some by number, most as themselves. -/
def outlineEscape (c : Char) : List Char :=
  if c = '\x00' then ['\\', '0']
  else if c = '\t' then ['\\', 't']
  else if c = '\n' then ['\\', 'n']
  else if c = '\r' then ['\\', 'r']
  else if c = '"' then ['\\', '"']
  else if c = '\\' then ['\\', '\\']
  else if isPrintable c then [c]
  else ['\\', 'u', '\x7b'] ++ hexDigits c.toNat ++ ['\x7d']

/-- A text in double quotes. -/
def quotedText (text : String) : String :=
  String.ofList ('"' :: text.toList.flatMap outlineEscape ++ ['"'])

/-- What the line of a token says. -/
def Token.outlineLine : Token → String
  | .bare text => "value " ++ quotedText text
  | .phrase text => "exact " ++ quotedText text
  | .operator op => "operator " ++ op.keyword
  | .group _ => "group"

/-- The indentation of a line at a depth. -/
def outlineIndent (depth : Nat) : String :=
  String.ofList (List.replicate (2 * depth) ' ')

mutual

/-- The lines of a token, in the chunks in which they are written: indentation, text and line
break. -/
def Token.outlineChunks (depth : Nat) : Token → List String
  | .group children =>
    [outlineIndent depth, Token.outlineLine (.group children), "\n"] ++
      Expression.outlineChunks (depth + 1) children
  | t => [outlineIndent depth, t.outlineLine, "\n"]

/-- The lines of an expression, in the chunks in which they are written. -/
def Expression.outlineChunks (depth : Nat) : Expression → List String
  | [] => []
  | t :: ts => t.outlineChunks depth ++ Expression.outlineChunks depth ts

end

/-- The outline of an expression; an empty one has no lines. -/
def Expression.outline (e : Expression) : String :=
  String.join (Expression.outlineChunks 0 e)

end BooleanSearch
