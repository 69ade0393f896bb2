import BooleanSearch.Event
import BooleanSearch.Token

/-!
# Normal form

In a normal expression operands and operators alternate at every level, no level ends with an
operator, only `NOT` may open one, `NOT` stands nowhere else, and no group is empty.

* `Expression.isNormalised` — checks those rules;
* `Expression.filter` — repairs any expression: groups first, from the inside out, then the
  level itself;
* `Expression.filterEvents` — what the repair reports.
-/

namespace BooleanSearch

/-! ## The rules -/

/-- Each two neighbours are of different classes. -/
def Expression.alternates : Expression → Bool
  | t :: u :: rest => (t.isOperator != u.isOperator) && Expression.alternates (u :: rest)
  | _ => true

/-- Only `NOT` may stand in front, and only before something. -/
def Expression.opensWell : Expression → Bool
  | .operator op :: tail => op == .not && !tail.isEmpty
  | _ => true

/-- The last token is no operator. -/
def Expression.closesWell (e : Expression) : Bool :=
  !e.getLast?.any Token.isOperator

theorem Expression.closesWell_tail {t : Token} {ts : Expression}
    (h : Expression.closesWell (t :: ts) = true) : Expression.closesWell ts = true := by
  cases ts with
  | nil => rfl
  | cons u rest =>
    rw [Expression.closesWell, List.getLast?_cons_cons] at h
    exact h

/-- The rules of one level, groups aside. -/
def Expression.levelIsNormal (e : Expression) : Bool :=
  e.opensWell && e.alternates && e.closesWell && e.tail.all fun t => t.operator? != some .not

mutual

/-- A group is not empty and obeys the rules; other tokens have no inside. -/
def Token.isNormalised : Token → Bool
  | .group children =>
    !children.isEmpty && Expression.levelIsNormal children && Expression.groupsAreNormal children
  | _ => true

/-- Every group of the level is in normal form. -/
def Expression.groupsAreNormal : Expression → Bool
  | [] => true
  | t :: ts => t.isNormalised && Expression.groupsAreNormal ts

end

/-- The rules hold at every level. -/
def Expression.isNormalised (e : Expression) : Bool :=
  Expression.levelIsNormal e && Expression.groupsAreNormal e

/-! ## Repairing one level -/

/-- Operators that join two operands cannot open a level. -/
def Token.joinsOnly : Token → Bool
  | .operator .and | .operator .or | .operator .orNot => true
  | _ => false

/-- In front, `AND NOT` has no left operand and means `NOT`. -/
def Token.leadingForm : Token → Token
  | .operator .andNot => .operator .not
  | t => t

/-- Behind an operand, `NOT` means `AND NOT`. -/
def Token.innerForm : Token → Token
  | .operator .not => .operator .andNot
  | t => t

/-- The tokens whose class differs from that of the token before them, in their inner form:
of neighbours of one class the first wins. -/
def Expression.changes (previous : Token) : Expression → Expression
  | [] => []
  | t :: ts =>
    if previous.isOperator != t.isOperator then t.innerForm :: Expression.changes t ts
    else Expression.changes t ts

/-- The level without its last token if that is an operator. -/
def Expression.cutTrailing (e : Expression) : Expression :=
  if e.getLast?.any Token.isOperator then e.dropLast else e

/-- The level without any operators at its end. -/
def Expression.dropDangling (e : Expression) : Expression :=
  (e.reverse.dropWhile Token.isOperator).reverse

/-- A level repaired from the front, perhaps with operators left dangling at its end. -/
def Expression.straighten (e : Expression) : Expression :=
  match e.dropWhile Token.joinsOnly with
  | [] => []
  | first :: tail => first.leadingForm :: Expression.changes first (Expression.cutTrailing tail)

/-- A level in normal form, groups aside. -/
def Expression.repair (e : Expression) : Expression :=
  Expression.dropDangling (Expression.straighten e)

/-! ## Repairing the tree -/

mutual

/-- A group is replaced by its repaired inside and vanishes if nothing is left. -/
def Token.repaired : Token → Expression
  | .group children => (Expression.repair (Expression.repairedGroups children)).asGroup
  | t => [t]

/-- The level with its groups repaired. -/
def Expression.repairedGroups : Expression → Expression
  | [] => []
  | t :: ts => t.repaired ++ Expression.repairedGroups ts

end

/-- The normal form of an expression. -/
def Expression.filter (e : Expression) : Expression :=
  Expression.repair (Expression.repairedGroups e)

/-! ## Events of the repair -/

/-- What the repair of one level reports: first the operators dropped in front, then each one
discarded at the end. -/
def Expression.repairEvents (e : Expression) : List Event :=
  let leading := (e.takeWhile Token.joinsOnly).length
  let straight := Expression.straighten e
  let dangling := straight.length - (Expression.dropDangling straight).length
  (if leading = 0 then [] else [.leadingDropped leading]) ++
    List.replicate dangling .danglingDiscarded

mutual

/-- The events of repairing one token. -/
def Token.filterEvents : Token → List Event
  | .group children =>
    Expression.groupEvents children ++
      Expression.repairEvents (Expression.repairedGroups children)
  | _ => []

/-- The events of repairing the groups of a level. -/
def Expression.groupEvents : Expression → List Event
  | [] => []
  | t :: ts => t.filterEvents ++ Expression.groupEvents ts

end

/-- What repairing an expression reports: the groups' events come before the level's own. -/
def Expression.filterEvents (e : Expression) : List Event :=
  Expression.groupEvents e ++ Expression.repairEvents (Expression.repairedGroups e)

end BooleanSearch
