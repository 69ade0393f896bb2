import BooleanSearch.Fragment.Error

/-!
# String literals of a data store

A quoter writes text as a string literal between two delimiters.  How text is escaped belongs to
the store that reads the literal, so a quoter is a value; two dialects are given.

* `Quoter.ansi` — a quote inside the literal is doubled, and NUL is refused;
* `Quoter.mysql` — seven characters are written with a backslash, and nothing is refused;
* `Quoter.shared` — quotes as another quoter does and strips delimiters in the usual way.
-/

namespace BooleanSearch

/-- Removes one delimiter in front and then one at the end.  Text that lacks either is left as it
is, so a lone delimiter stays. -/
def stripDelimiters (delimiter : Char) (quoted : String) : String :=
  match quoted.toList with
  | [] => quoted
  | c :: rest =>
    if c == delimiter && rest.getLast? == some delimiter then String.ofList rest.dropLast
    else quoted

/-- A way of writing text as a string literal. -/
structure Quoter where
  /-- The character on both sides of a literal. -/
  delimiter : Char
  /-- The literal for a text. -/
  quote : String → Except FormatError String
  /-- The text between the delimiters, still escaped. -/
  unquote : String → String := stripDelimiters delimiter

/-- A literal around an escaped text. -/
def enclose (delimiter : Char) (escaped : List Char) : String :=
  String.ofList (delimiter :: escaped ++ [delimiter])

/-! ## Standard SQL -/

/-- A quote is written twice, every other character once. -/
def ansiEscape (c : Char) : List Char :=
  if c = '\'' then ['\'', '\''] else [c]

/-- Literals of standard SQL, which cannot hold a NUL. -/
def Quoter.ansi : Quoter where
  delimiter := '\''
  quote literal :=
    if literal.toList.contains '\x00' then
      .error (.unquotable literal "literal contains a NUL character")
    else .ok (enclose '\'' (literal.toList.flatMap ansiEscape))

/-! ## MySQL -/

/-- Seven characters are written as a backslash and a letter or themselves. -/
def mysqlEscape (c : Char) : List Char :=
  if c = '\x00' then ['\\', '0']
  else if c = '\n' then ['\\', 'n']
  else if c = '\r' then ['\\', 'r']
  else if c = '\\' then ['\\', '\\']
  else if c = '\'' then ['\\', '\'']
  else if c = '"' then ['\\', '"']
  else if c = '\x1a' then ['\\', 'Z']
  else [c]

/-- Literals of MySQL; every text has one. -/
def Quoter.mysql : Quoter where
  delimiter := '\''
  quote literal := .ok (enclose '\'' (literal.toList.flatMap mysqlEscape))

/-! ## Sharing a quoter -/

/-- The quoter that writes what `q` writes, with `q`'s delimiter, and strips that delimiter in
the usual way. -/
def Quoter.shared (q : Quoter) : Quoter where
  delimiter := q.delimiter
  quote := q.quote

end BooleanSearch
