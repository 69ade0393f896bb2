import BooleanSearch.Fragment.Quoter
import BooleanSearch.Text.Marker
import BooleanSearch.Token

/-!
# LIKE fragments

A formatter turns one search term into a filter fragment.  The formatter given here looks for
the term anywhere in a text, by the pattern `%term%` written as a string literal.

* `Formatter` — any function from terms to fragments;
* `Template` — a text in which a nonempty marker occurs, checked once by `Template.parse`;
* `LikeFormatter` — the pattern compared with a column, or put in place of a template's marker.
-/

namespace BooleanSearch

/-- Turns one search term into a filter fragment. -/
abbrev Formatter := Term → Except FormatError String

/-- A fragment with places for the pattern: a marker that is not empty and occurs in the text. -/
structure Template where
  text : String
  marker : String
  marker_ne_empty : marker ≠ ""
  marker_occurs : occursIn marker.toList text.toList = true

/-- Checks a template.  An empty marker is reported before a missing one. -/
def Template.parse (text marker : String) : Except FormatError Template :=
  if hm : marker = "" then .error .emptyMarker
  else if ho : occursIn marker.toList text.toList = true then
    .ok ⟨text, marker, hm, ho⟩
  else .error (.missingMarker marker text)

/-- The text with `pattern` in place of each marker. -/
def Template.fill (t : Template) (pattern : String) : String :=
  String.ofList (replaceMarker t.marker.toList pattern.toList t.text.toList)

/-- What a term is compared with. -/
inductive DataSource where
  /-- A column, or any expression that may stand in front of `LIKE`. -/
  | column (expression : String)
  /-- A fragment with places for the pattern, which stand between quotes already. -/
  | template (t : Template)

/-- The data source for a text: a template if a marker is given, a column otherwise. -/
def DataSource.parse (text : String) : (marker? : Option String) → Except FormatError DataSource
  | none => .ok (.column text)
  | some marker => (Template.parse text marker).map .template

/-- A formatter of `LIKE` comparisons. -/
structure LikeFormatter where
  source : DataSource
  quoter : Quoter := .ansi

/-- The pattern that finds a text anywhere. -/
def likePattern (text : String) : String :=
  "%" ++ text ++ "%"

/-- The fragment of a term.  A phrase is looked for like a bare term. -/
def LikeFormatter.format (f : LikeFormatter) : Formatter := fun term => do
  let quoted ← f.quoter.quote (likePattern term.text)
  match f.source with
  | .column expression => return expression ++ " LIKE " ++ quoted
  | .template t => return t.fill (f.quoter.unquote quoted)

end BooleanSearch
