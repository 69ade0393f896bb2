import Mathlib.Data.List.Chain
import Mathlib.Data.List.DropRight
import Mathlib.Data.Set.Operations
import BooleanSearch.Query

/-!
# Normal form is what repair gives

What repair gives obeys the rules of the normal form; here what obeys them is shown to be left
alone, so the rules and the repair describe the same expressions.

* `Expression.repair_eq_self` — a level that obeys the rules is left alone;
* `Expression.filter_eq_self` — the same for whole trees, by induction over the groups;
* `Expression.all_levels_isNormalised` — a normal tree is normal at every level;
* `isNormalised_iff_filter_eq_self` — the statements together, with those about queries.
-/

namespace BooleanSearch

/-! ## Neighbours -/

theorem Token.innerForm_of_ne {t : Token} (h : t.operator? ≠ some .not) : t.innerForm = t := by
  unfold Token.innerForm
  split
  · exact absurd rfl h
  · rfl

/-- Neighbours of different classes form a chain. -/
theorem Expression.alternates_iff_isChain (e : Expression) :
    e.alternates = true ↔ List.IsChain (fun t u => t.isOperator ≠ u.isOperator) e := by
  induction e with
  | nil => exact iff_of_true rfl .nil
  | cons t ts ih =>
    cases ts with
    | nil => exact iff_of_true rfl (.singleton t)
    | cons u rest =>
      rw [Expression.alternates, Bool.and_eq_true, bne_iff_ne, ih, List.isChain_cons_cons]

/-- Where neighbours alternate and no negation stands alone, everything is kept. -/
theorem Expression.changes_eq_self {previous : Token} {ts : Expression}
    (halt : Expression.alternates (previous :: ts) = true)
    (hnot : ∀ t ∈ ts, t.operator? ≠ some .not) : Expression.changes previous ts = ts := by
  induction ts generalizing previous with
  | nil => rfl
  | cons t ts ih =>
    obtain ⟨hne, halt⟩ := Bool.and_eq_true_iff.1 halt
    rw [Expression.changes, if_pos hne, Token.innerForm_of_ne (hnot t List.mem_cons_self),
      ih halt fun u hu => hnot u (List.mem_cons_of_mem t hu)]

/-! ## The end of a level -/

theorem Expression.closesWell_iff (e : Expression) :
    e.closesWell = true ↔ ∀ h : e ≠ [], (e.getLast h).isOperator = false := by
  cases e with
  | nil => simp [Expression.closesWell]
  | cons t ts => simp [Expression.closesWell, List.getLast?_eq_some_getLast]

theorem Expression.dropDangling_eq_self {e : Expression} (h : e.closesWell = true) :
    e.dropDangling = e := by
  refine List.rdropWhile_eq_self_iff.2 fun hne => ?_
  rw [(Expression.closesWell_iff e).1 h hne]
  exact Bool.false_ne_true

theorem Expression.cutTrailing_eq_self {e : Expression} (h : e.closesWell = true) :
    e.cutTrailing = e := by
  rw [Expression.closesWell, Bool.not_eq_true'] at h
  rw [Expression.cutTrailing, h, if_neg Bool.false_ne_true]

/-! ## One level -/

/-- A token that may open a normal level is neither dropped in front nor rewritten there. -/
theorem Expression.first_of_opensWell {first : Token} {tail : Expression}
    (h : Expression.opensWell (first :: tail) = true) :
    first.joinsOnly = false ∧ first.leadingForm = first := by
  cases first with
  | operator op =>
    obtain rfl : op = .not := by simpa [Expression.opensWell] using (Bool.and_eq_true_iff.1 h).1
    exact ⟨rfl, rfl⟩
  | _ => exact ⟨rfl, rfl⟩

theorem Expression.straighten_eq_self {e : Expression} (h : e.levelIsNormal = true) :
    e.straighten = e := by
  simp only [Expression.levelIsNormal, Bool.and_eq_true] at h
  obtain ⟨⟨⟨hopen, halt⟩, hclose⟩, hnot⟩ := h
  cases e with
  | nil => rfl
  | cons first tail =>
    obtain ⟨hjoins, hform⟩ := Expression.first_of_opensWell hopen
    have hdrop : (first :: tail).dropWhile Token.joinsOnly = first :: tail :=
      List.dropWhile_cons_of_neg (by simp [hjoins])
    have hnot : ∀ t ∈ tail, t.operator? ≠ some .not :=
      fun t ht => bne_iff_ne.1 (List.all_eq_true.1 hnot t ht)
    rw [Expression.straighten_of_cons hdrop, hform,
      Expression.cutTrailing_eq_self (Expression.closesWell_tail hclose),
      Expression.changes_eq_self halt hnot]

/-- **A level that obeys the rules is left alone.** -/
theorem Expression.repair_eq_self {e : Expression} (h : e.levelIsNormal = true) :
    e.repair = e := by
  have hclose : e.closesWell = true := by
    simp only [Expression.levelIsNormal, Bool.and_eq_true] at h
    exact h.1.2
  rw [Expression.repair, Expression.straighten_eq_self h, Expression.dropDangling_eq_self hclose]

/-! ## Groups -/

mutual

theorem Token.repaired_eq_self (t : Token) (h : t.isNormalised = true) : t.repaired = [t] := by
  cases t with
  | group children =>
    rw [Token.isNormalised, Bool.and_eq_true, Bool.and_eq_true] at h
    obtain ⟨⟨hne, hlevel⟩, hgroups⟩ := h
    rw [Token.repaired, Expression.repairedGroups_eq_self children hgroups,
      Expression.repair_eq_self hlevel]
    cases children with
    | nil => cases hne
    | cons u us => rfl
  | _ => rfl

/-- Groups in normal form are left alone. -/
theorem Expression.repairedGroups_eq_self (e : Expression)
    (h : Expression.groupsAreNormal e = true) : Expression.repairedGroups e = e := by
  cases e with
  | nil => rfl
  | cons t ts =>
    obtain ⟨ht, hts⟩ := Bool.and_eq_true_iff.1 h
    rw [Expression.repairedGroups, Token.repaired_eq_self t ht,
      Expression.repairedGroups_eq_self ts hts]
    rfl

end

/-! ## The tree -/

theorem Expression.filter_eq_self {e : Expression} (h : e.isNormalised = true) : e.filter = e := by
  obtain ⟨hlevel, hgroups⟩ := Bool.and_eq_true_iff.1 h
  rw [Expression.filter, Expression.repairedGroups_eq_self e hgroups,
    Expression.repair_eq_self hlevel]

/-- Repair leaves a query alone. -/
theorem Query.ofExpression_expression (q : Query) : Query.ofExpression q.expression = q :=
  Query.ext (Expression.filter_eq_self q.normal)

/-! ## Every level of a tree -/

mutual

/-- The levels inside one token. -/
def Token.levels : Token → List Expression
  | .group children => children :: Expression.groupLevels children
  | _ => []

/-- The levels inside the groups of a level. -/
def Expression.groupLevels : Expression → List Expression
  | [] => []
  | t :: ts => t.levels ++ Expression.groupLevels ts

end

/-- Every level of an expression, its own first. -/
def Expression.levels (e : Expression) : List Expression :=
  e :: Expression.groupLevels e

mutual

theorem Token.isNormalised_of_mem_levels (t : Token) (h : t.isNormalised = true)
    {level : Expression} (hlevel : level ∈ t.levels) : level.isNormalised = true := by
  cases t with
  | group children =>
    rw [Token.isNormalised, Bool.and_eq_true, Bool.and_eq_true] at h
    obtain ⟨⟨-, hown⟩, hgroups⟩ := h
    obtain rfl | hlevel := List.mem_cons.1 hlevel
    · exact Bool.and_eq_true_iff.2 ⟨hown, hgroups⟩
    · exact Expression.isNormalised_of_mem_groupLevels children hgroups hlevel
  | _ => cases hlevel

theorem Expression.isNormalised_of_mem_groupLevels (e : Expression)
    (h : Expression.groupsAreNormal e = true) {level : Expression}
    (hlevel : level ∈ Expression.groupLevels e) : level.isNormalised = true := by
  cases e with
  | nil => cases hlevel
  | cons t ts =>
    obtain ⟨ht, hts⟩ := Bool.and_eq_true_iff.1 h
    obtain hlevel | hlevel := List.mem_append.1 hlevel
    · exact Token.isNormalised_of_mem_levels t ht hlevel
    · exact Expression.isNormalised_of_mem_groupLevels ts hts hlevel

end

/-- A normal expression is normal at every level. -/
theorem Expression.all_levels_isNormalised {e : Expression} (h : e.isNormalised = true) :
    e.levels.all Expression.isNormalised = true := by
  refine List.all_eq_true.2 fun level hlevel => ?_
  obtain rfl | hlevel := List.mem_cons.1 hlevel
  · exact h
  · exact Expression.isNormalised_of_mem_groupLevels e (Bool.and_eq_true_iff.1 h).2 hlevel

/-- **Normal form is what repair gives.**  Repair always gives a normal expression and leaves
exactly the normal ones alone, so repairing twice is repairing once, the normal expressions are
the repaired ones, and every query is normal at every level. -/
theorem isNormalised_iff_filter_eq_self :
    (∀ e : Expression, e.filter.isNormalised = true) ∧
      (∀ e : Expression, e.isNormalised = true ↔ e.filter = e) ∧
      (∀ e : Expression, e.filter.filter = e.filter) ∧
      Set.range Expression.filter = {e : Expression | e.isNormalised = true} ∧
      (∀ (reader : Tokenizer) (text : String),
        (Query.parse reader text).expression.levels.all Expression.isNormalised = true) ∧
      ∀ e : Expression,
        (Query.ofExpression e).expression.levels.all Expression.isNormalised = true := by
  have hiff : ∀ e : Expression, e.isNormalised = true ↔ e.filter = e :=
    fun e => ⟨Expression.filter_eq_self, fun h => h ▸ Expression.isNormalised_filter e⟩
  have hquery : ∀ e : Expression,
      (Query.ofExpression e).expression.levels.all Expression.isNormalised = true :=
    fun e => Expression.all_levels_isNormalised (Query.ofExpression e).normal
  refine ⟨Expression.isNormalised_filter, hiff,
    fun e => Expression.filter_eq_self (Expression.isNormalised_filter e), ?_,
    fun reader text => hquery (reader.tokenize text), hquery⟩
  ext e
  constructor
  · intro h
    obtain ⟨e', rfl⟩ := h
    exact Expression.isNormalised_filter e'
  · intro h
    exact ⟨e, Expression.filter_eq_self h⟩

end BooleanSearch
