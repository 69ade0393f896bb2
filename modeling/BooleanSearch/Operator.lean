import BooleanSearch.Text.Character

/-!
# Boolean operators

The five operators of a search expression and their keywords.  An operator is recognised in
running text only when a delimiter stands on each side of its keyword, and keywords are upper
case.

* `Operator.all` — the operators in the order in which they are tried: `AND` begins `AND NOT`,
  so the two-word operators come first;
* `Operator.parse` — an operator from its exact keyword;
* `Operator.leading?` — the operator at the front of running text.
-/

namespace BooleanSearch

/-- A Boolean operator between, or in front of, search terms. -/
inductive Operator where
  | andNot
  | orNot
  | and
  | or
  | not
  deriving DecidableEq, Repr

/-- Every operator, in the order in which keywords are tried against text. -/
def Operator.all : List Operator :=
  [.andNot, .orNot, .and, .or, .not]

/-- The upper-case keyword; the words of a two-word operator are one space apart. -/
def Operator.keyword : Operator → String
  | .andNot => "AND NOT"
  | .orNot => "OR NOT"
  | .and => "AND"
  | .or => "OR"
  | .not => "NOT"

/-- An operator that negates the operand on its right. -/
def Operator.isNegation : Operator → Bool
  | .andNot | .orNot | .not => true
  | .and | .or => false

/-- Text that was given as an operator's keyword and is none. -/
structure UnknownOperator where
  text : String
  deriving DecidableEq, Repr

/-- The wording of the failure. -/
def UnknownOperator.message (e : UnknownOperator) : String :=
  "unknown search operator `" ++ e.text ++ "`"

/-- Reads an operator from its exact keyword: no other case, no surrounding space. -/
def Operator.parse (text : String) : Except UnknownOperator Operator :=
  match Operator.all.find? fun op => op.keyword == text with
  | some op => .ok op
  | none => .error ⟨text⟩

/-- Does `text` begin with a delimiter, the keyword and another delimiter? -/
def Operator.leads (op : Operator) : List Char → Bool
  | [] => false
  | c :: rest =>
    isDelimiter c && op.keyword.toList.isPrefixOf rest &&
      (rest.drop op.keyword.toList.length).head?.any isDelimiter

/-- The first operator, in the order of `Operator.all`, that leads `text`. -/
def Operator.leading? (text : List Char) : Option Operator :=
  Operator.all.find? fun op => op.leads text

end BooleanSearch
