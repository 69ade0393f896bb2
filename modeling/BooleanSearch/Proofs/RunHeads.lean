import Mathlib.Data.List.SplitBy
import BooleanSearch.Proofs.Normalisation

/-!
# Repair keeps the head of each run

A level falls into runs of tokens of one class, operators or operands.  The repair never forms
those runs: it compares each token with the one before it, cuts one operator off the end in advance
and drops whatever is left dangling afterwards.  Here it is shown to give the first token of each
run, except for a last run of operators, and each token rewritten for its position.

* `Expression.runs`, `withoutLastOperators`, `Token.placed` — the parts of that form, and
  `Expression.runHeads` — the form of a level;
* `AreRuns.changes_eq` — the pass over a level meets a change of class at the head of each run;
* `Expression.dropDangling_cutTrailing` — the operator cut off in advance makes no difference;
* `Expression.dropDangling_eq_cutTrailing` — where classes alternate, one operator dangles at most;
* `Expression.repair_eq_runHeads` — the repair of a level gives its form;
* `filter_eq_runHeads` — the statement for a level with its groups;
* `Expression.terms_repair`, `Expression.repair_eq_nil_iff` — hence a repaired level has no terms
  but its own, and is empty only if it has no operand;
* `terms_filter` — the same for the terms of a tree, by induction over the groups.
-/

namespace BooleanSearch

/-! ## The form of a level -/

/-- A group becomes the group of its repaired inside and vanishes if nothing is left. -/
def Token.filtered : Token → Expression
  | .group children => (Expression.filter children).asGroup
  | t => [t]

/-- The level with its groups repaired, without those that vanish. -/
def Expression.withFilteredGroups (e : Expression) : Expression :=
  e.flatMap Token.filtered

/-- Neighbours in one run are both operators or both operands. -/
def Token.sameClass (t u : Token) : Bool :=
  t.isOperator == u.isOperator

/-- The level cut into its maximal runs of tokens of one class. -/
def Expression.runs (e : Expression) : List Expression :=
  e.splitBy Token.sameClass

/-- The runs without the last one if it consists of operators. -/
def withoutLastOperators (runs : List Expression) : List Expression :=
  if runs.getLast?.any fun run => run.all Token.isOperator then runs.dropLast else runs

/-- A token in its position: in front `AND NOT` becomes `NOT`, behind that `NOT` becomes
`AND NOT`. -/
def Token.placed (position : Nat) (t : Token) : Token :=
  if position = 0 ∧ t = .operator .andNot then .operator .not
  else if position ≠ 0 ∧ t = .operator .not then .operator .andNot
  else t

/-- The operators that join two operands and so cannot open a level. -/
def joiningOperators : List Token :=
  [.operator .and, .operator .or, .operator .orNot]

/-- The first token of each run behind the joining operators in front, without a last run of
operators, each in its position. -/
def Expression.runHeads (e : Expression) : Expression :=
  let runs := Expression.runs (e.dropWhile fun t => t ∈ joiningOperators)
  ((withoutLastOperators runs).filterMap List.head?).mapIdx Token.placed

/-! ## Tokens in their position -/

theorem Token.mem_joiningOperators (t : Token) : decide (t ∈ joiningOperators) = t.joinsOnly := by
  cases t with
  | operator op => cases op <;> rfl
  | _ => simp [joiningOperators, Token.joinsOnly]

theorem Token.placed_zero (t : Token) : t.placed 0 = t.leadingForm := by
  cases t with
  | operator op => cases op <;> rfl
  | _ => rfl

theorem Token.placed_succ (position : Nat) (t : Token) : t.placed (position + 1) = t.innerForm := by
  cases t with
  | operator op => cases op <;> simp [Token.placed, Token.innerForm]
  | _ => simp [Token.placed, Token.innerForm]

theorem Token.isOperator_placed (position : Nat) (t : Token) :
    (t.placed position).isOperator = t.isOperator := by
  cases position with
  | zero => rw [Token.placed_zero, Token.isOperator_leadingForm]
  | succ position => rw [Token.placed_succ, Token.isOperator_innerForm]

/-- The tokens of a level in their positions: the first in its leading form, the others in their
inner form. -/
theorem Expression.mapIdx_placed_cons (t : Token) (ts : Expression) :
    (t :: ts).mapIdx Token.placed = t.leadingForm :: ts.map Token.innerForm := by
  have hrest : ts.mapIdx (fun i => Token.placed (i + 1)) = ts.map Token.innerForm := by
    apply List.ext_getElem
    · simp
    · intro i _ _
      simp [Token.placed_succ]
  rw [List.mapIdx_cons, Token.placed_zero, hrest]

/-! ## Changes of class -/

/-- Runs of a level: none is empty, each is of one class, and from one to the next the class
changes. -/
structure AreRuns (runs : List Expression) : Prop where
  ne_nil : [] ∉ runs
  oneClass : ∀ run ∈ runs, run.IsChain fun t u => t.sameClass u
  apart : runs.IsChain fun run next =>
    ∃ ha hb, Token.sameClass (run.getLast ha) (next.head hb) = false

theorem Expression.areRuns (e : Expression) : AreRuns e.runs where
  ne_nil := List.nil_notMem_splitBy _ e
  oneClass _ hrun := List.isChain_of_mem_splitBy hrun
  apart := List.isChain_getLast_head_splitBy _ e

theorem AreRuns.of_cons {run : Expression} {runs : List Expression} (h : AreRuns (run :: runs)) :
    AreRuns runs where
  ne_nil hmem := h.ne_nil (List.mem_cons_of_mem run hmem)
  oneClass run' hrun := h.oneClass run' (List.mem_cons_of_mem run hrun)
  apart := h.apart.tail

/-- Within a run nothing changes. -/
theorem Expression.changes_run {t : Token} {run : Expression}
    (h : (t :: run).IsChain fun u v => u.sameClass v) (rest : Expression) :
    Expression.changes t (run ++ rest) =
      Expression.changes ((t :: run).getLast (List.cons_ne_nil t run)) rest := by
  induction run generalizing t with
  | nil => rfl
  | cons u run ih =>
    obtain ⟨hsame, hrun⟩ := List.isChain_cons_cons.1 h
    have hno : ¬(t.isOperator != u.isOperator) = true := by
      simpa [Token.sameClass] using hsame
    rw [List.cons_append, Expression.changes, if_neg hno, ih hrun,
      List.getLast_cons (List.cons_ne_nil u run)]

/-- **The pass meets a change of class at the head of each run** behind the first, by induction on
those runs. -/
theorem AreRuns.changes_eq {t : Token} {run : Expression} {runs : List Expression}
    (h : AreRuns ((t :: run) :: runs)) :
    Expression.changes t (run ++ runs.flatten) =
      (runs.filterMap List.head?).map Token.innerForm := by
  induction runs generalizing t run with
  | nil =>
    rw [Expression.changes_run (h.oneClass _ List.mem_cons_self)]
    rfl
  | cons next runs ih =>
    have hrest := h.of_cons
    cases next with
    | nil => exact absurd List.mem_cons_self hrest.ne_nil
    | cons u next =>
      obtain ⟨_, _, hchange⟩ := (List.isChain_cons_cons.1 h.apart).1
      have hdiffer : (((t :: run).getLast (List.cons_ne_nil t run)).isOperator != u.isOperator) =
          true := by
        simpa [Token.sameClass] using hchange
      rw [Expression.changes_run (h.oneClass _ List.mem_cons_self)]
      show Expression.changes _ (u :: (next ++ runs.flatten)) = _
      rw [Expression.changes, if_pos hdiffer, ih hrest]
      rfl

/-- What the pass keeps of a level is the head of each run in its position. -/
theorem Expression.mapIdx_heads_runs (first : Token) (tail : Expression) :
    ((Expression.runs (first :: tail)).filterMap List.head?).mapIdx Token.placed =
      first.leadingForm :: Expression.changes first tail := by
  have hruns := Expression.areRuns (first :: tail)
  have hflatten : (Expression.runs (first :: tail)).flatten = first :: tail :=
    List.flatten_splitBy _ _
  cases hsplit : Expression.runs (first :: tail) with
  | nil => simp [hsplit] at hflatten
  | cons run runs =>
    rw [hsplit] at hruns hflatten
    cases run with
    | nil => exact absurd List.mem_cons_self hruns.ne_nil
    | cons t run =>
      obtain ⟨rfl, rfl⟩ : t = first ∧ run ++ runs.flatten = tail := by simpa using hflatten
      rw [hruns.changes_eq, ← Expression.mapIdx_placed_cons]
      rfl

/-! ## The end of a level -/

theorem Expression.dropDangling_concat {t : Token} (h : t.isOperator = true) (e : Expression) :
    Expression.dropDangling (e ++ [t]) = Expression.dropDangling e :=
  List.rdropWhile_concat_pos Token.isOperator e t h

theorem Expression.cutTrailing_concat (e : Expression) (t : Token) :
    Expression.cutTrailing (e ++ [t]) = if t.isOperator then e else e ++ [t] := by
  simp [Expression.cutTrailing]

/-- One more token is kept or it is not. -/
theorem Expression.changes_concat (previous : Token) (ts : Expression) (t : Token) :
    Expression.changes previous (ts ++ [t]) = Expression.changes previous ts ∨
      Expression.changes previous (ts ++ [t]) =
        Expression.changes previous ts ++ [t.innerForm] := by
  induction ts generalizing previous with
  | nil =>
    simp only [List.nil_append, Expression.changes]
    split
    · exact .inr rfl
    · exact .inl rfl
  | cons u ts ih =>
    simp only [List.cons_append, Expression.changes]
    split
    · rcases ih u with h | h
      · exact .inl (by rw [h])
      · exact .inr (by rw [h, List.cons_append])
    · exact ih u

/-- **The operator cut off in advance makes no difference**: it would dangle. -/
theorem Expression.dropDangling_cutTrailing (kept previous : Token) (tail : Expression) :
    Expression.dropDangling (kept :: Expression.changes previous tail.cutTrailing) =
      Expression.dropDangling (kept :: Expression.changes previous tail) := by
  rcases List.eq_nil_or_concat tail with rfl | ⟨ts, t, rfl⟩
  · rfl
  · rw [List.concat_eq_append, Expression.cutTrailing_concat]
    split
    · rename_i hop
      rcases Expression.changes_concat previous ts t with h | h
      · rw [h]
      · rw [h, ← List.cons_append, Expression.dropDangling_concat (by simpa using hop)]
    · rfl

/-- **Where classes alternate**, one operator at most dangles. -/
theorem Expression.dropDangling_eq_cutTrailing {e : Expression} (h : e.alternates = true) :
    e.dropDangling = e.cutTrailing := by
  rcases List.eq_nil_or_concat e with rfl | ⟨ts, t, rfl⟩
  · rfl
  · rw [List.concat_eq_append] at h ⊢
    rw [Expression.cutTrailing_concat]
    split
    · rename_i hop
      -- in front of an operator stands an operand, which stays
      have hclose : Expression.closesWell ts = true := by
        rw [Expression.closesWell_iff]
        intro hts
        have hchain := (Expression.alternates_iff_isChain _).1 h
        have hne := (List.isChain_append.1 hchain).2.2 _ (List.getLast_mem_getLast? hts) t rfl
        simpa [hop] using hne
      rw [Expression.dropDangling_concat hop, Expression.dropDangling_eq_self hclose]
    · rename_i hop
      exact List.rdropWhile_concat_neg Token.isOperator ts t hop

theorem Expression.cutTrailing_mapIdx (e : Expression) :
    Expression.cutTrailing (e.mapIdx Token.placed) = e.cutTrailing.mapIdx Token.placed := by
  rcases List.eq_nil_or_concat e with rfl | ⟨ts, t, rfl⟩
  · rfl
  · rw [List.concat_eq_append, List.mapIdx_concat, Expression.cutTrailing_concat,
      Expression.cutTrailing_concat, Token.isOperator_placed]
    split
    · rfl
    · rw [List.mapIdx_concat]

/-- A run is made of operators exactly if it begins with one. -/
theorem Expression.all_isOperator_run {t : Token} {run : Expression}
    (h : (t :: run).IsChain fun u v => u.sameClass v) :
    (t :: run).all Token.isOperator = t.isOperator := by
  induction run generalizing t with
  | nil => simp
  | cons u run ih =>
    obtain ⟨hsame, hrun⟩ := List.isChain_cons_cons.1 h
    have hclass : t.isOperator = u.isOperator := by simpa [Token.sameClass] using hsame
    rw [List.all_cons, ih hrun, hclass, Bool.and_self]

/-- Dropping a last run of operators drops the last head if that is an operator. -/
theorem AreRuns.heads_withoutLastOperators {runs : List Expression} (h : AreRuns runs) :
    (withoutLastOperators runs).filterMap List.head? =
      Expression.cutTrailing (runs.filterMap List.head?) := by
  rcases List.eq_nil_or_concat runs with rfl | ⟨front, last, rfl⟩
  · rfl
  · rw [List.concat_eq_append] at h ⊢
    cases last with
    | nil => exact absurd (by simp) h.ne_nil
    | cons t run =>
      have hall := Expression.all_isOperator_run (h.oneClass (t :: run) (by simp))
      have hheads : (front ++ [t :: run]).filterMap List.head? =
          front.filterMap List.head? ++ [t] := by simp
      rw [withoutLastOperators, List.getLast?_concat, Option.any_some, hall, List.dropLast_concat,
        hheads, Expression.cutTrailing_concat]
      split
      · rfl
      · exact hheads

/-! ## One level -/

/-- **The repair of a level gives the head of each run**, in its position. -/
theorem Expression.repair_eq_runHeads (e : Expression) : e.repair = e.runHeads := by
  have hfront : (e.dropWhile fun t => decide (t ∈ joiningOperators)) =
      e.dropWhile Token.joinsOnly := by
    simp only [Token.mem_joiningOperators]
  rw [Expression.runHeads, hfront]
  cases hdrop : e.dropWhile Token.joinsOnly with
  | nil =>
    rw [Expression.repair, Expression.straighten_of_nil hdrop]
    rfl
  | cons first tail =>
    have halt := Expression.alternates_changes (Token.isOperator_leadingForm first) tail
    calc e.repair
        = Expression.dropDangling (first.leadingForm :: Expression.changes first tail) := by
          rw [Expression.repair, Expression.straighten_of_cons hdrop,
            Expression.dropDangling_cutTrailing]
      _ = Expression.cutTrailing (first.leadingForm :: Expression.changes first tail) :=
          Expression.dropDangling_eq_cutTrailing halt
      _ = ((withoutLastOperators (Expression.runs (first :: tail))).filterMap
            List.head?).mapIdx Token.placed := by
          rw [← Expression.mapIdx_heads_runs, Expression.cutTrailing_mapIdx,
            ← (Expression.areRuns _).heads_withoutLastOperators]

/-! ## The tree -/

theorem Expression.repairedGroups_eq (e : Expression) :
    Expression.repairedGroups e = e.withFilteredGroups := by
  induction e with
  | nil => rfl
  | cons t ts ih =>
    rw [Expression.repairedGroups, ih]
    cases t <;> rfl

/-- **Repair gives the head of each run.**  The groups are repaired first, and those of which
nothing is left vanish; behind the joining operators in front, the first token of each run is kept,
without a last run of operators, and rewritten for its position. -/
theorem filter_eq_runHeads (e : Expression) : e.filter = e.withFilteredGroups.runHeads := by
  rw [Expression.filter, Expression.repair_eq_runHeads, Expression.repairedGroups_eq]

-- A group that vanishes joins the runs on both sides of it.
example : Expression.filter [.operator .or, .operator .andNot, .bare "a", .operator .not,
      .group [.operator .and], .operator .or, .phrase "b", .bare "c", .operator .and] =
    [.operator .not, .bare "a", .operator .andNot, .phrase "b"] := by decide +kernel

/-! ## Terms -/

theorem Token.terms_leadingForm (t : Token) : t.leadingForm.terms = t.terms := by
  unfold Token.leadingForm
  split <;> rfl

theorem Token.terms_innerForm (t : Token) : t.innerForm.terms = t.terms := by
  unfold Token.innerForm
  split <;> rfl

/-- Rewriting tokens for their position changes no term. -/
theorem Expression.terms_mapIdx_placed (e : Expression) :
    Expression.terms (e.mapIdx Token.placed) = Expression.terms e := by
  cases e with
  | nil => rfl
  | cons t ts =>
    rw [Expression.mapIdx_placed_cons, Expression.terms, Expression.terms, Token.terms_leadingForm,
      Expression.terms_eq_flatMap, Expression.terms_eq_flatMap, List.flatMap_map]
    simp only [Token.terms_innerForm]

/-- The heads of runs stand in the level in that order. -/
theorem filterMap_head?_sublist (runs : List Expression) :
    (runs.filterMap List.head?).Sublist runs.flatten := by
  induction runs with
  | nil => exact .slnil
  | cons run runs ih =>
    cases run with
    | nil => exact ih
    | cons t run => exact (ih.trans (List.sublist_append_right run _)).cons_cons t

theorem withoutLastOperators_sublist (runs : List Expression) :
    (withoutLastOperators runs).Sublist runs := by
  unfold withoutLastOperators
  split
  · exact List.dropLast_sublist runs
  · exact List.Sublist.refl runs

/-- **Repairing a level invents, reorders and duplicates no term.** -/
theorem Expression.terms_repair (e : Expression) :
    (Expression.terms e.repair).Sublist (Expression.terms e) := by
  rw [Expression.repair_eq_runHeads, Expression.runHeads, Expression.terms_mapIdx_placed,
    Expression.terms_eq_flatMap, Expression.terms_eq_flatMap]
  apply List.Sublist.flatMap
  have hruns := (withoutLastOperators_sublist (Expression.runs (e.dropWhile fun t =>
    decide (t ∈ joiningOperators)))).flatten
  rw [Expression.runs, List.flatten_splitBy] at hruns
  exact (filterMap_head?_sublist _).trans (hruns.trans (List.dropWhile_sublist _))

/-- A run that holds an operand is not dropped. -/
theorem mem_withoutLastOperators {runs : List Expression} {run : Expression} (h : run ∈ runs)
    (hrun : run.all Token.isOperator = false) : run ∈ withoutLastOperators runs := by
  rcases List.eq_nil_or_concat runs with rfl | ⟨front, last, rfl⟩
  · exact h
  · rw [List.concat_eq_append] at h ⊢
    rw [withoutLastOperators, List.getLast?_concat, Option.any_some, List.dropLast_concat]
    split
    · rename_i hlast
      rcases List.mem_append.1 h with hfront | hlast'
      · exact hfront
      · rw [List.mem_singleton.1 hlast', hlast] at hrun
        cases hrun
    · exact h

/-- An operand is never among the operators in front. -/
theorem Expression.mem_dropWhile_of_operand {e : Expression} {t : Token} (h : t ∈ e)
    (hop : t.isOperator = false) : t ∈ e.dropWhile fun u => decide (u ∈ joiningOperators) := by
  rw [← List.takeWhile_append_dropWhile (p := fun u => decide (u ∈ joiningOperators)) (l := e)] at h
  rcases List.mem_append.1 h with hfront | hrest
  · have hjoins := List.mem_takeWhile_imp hfront
    cases t with
    | operator op => cases hop
    | _ => simp [joiningOperators] at hjoins
  · exact hrest

/-- **A level is repaired to nothing exactly if it holds no operand.** -/
theorem Expression.repair_eq_nil_iff (e : Expression) :
    e.repair = [] ↔ ∀ t ∈ e, t.isOperator = true := by
  constructor
  · intro hnil t ht
    by_contra hop
    -- the run of an operand is kept, and its head with it
    have hrest := Expression.mem_dropWhile_of_operand ht (eq_false_of_ne_true hop)
    rw [← List.flatten_splitBy Token.sameClass (e.dropWhile _)] at hrest
    obtain ⟨run, hrun, htrun⟩ := List.mem_flatten.1 hrest
    have hkept := mem_withoutLastOperators hrun (List.all_eq_false.2 ⟨t, htrun, hop⟩)
    rw [Expression.repair_eq_runHeads, Expression.runHeads, List.mapIdx_eq_nil_iff,
      List.filterMap_eq_nil_iff] at hnil
    rw [List.head?_eq_none_iff.1 (hnil run hkept)] at htrun
    cases htrun
  · intro hall
    by_contra hne
    have hclose := Expression.closesWell_dropDangling e.straighten
    have hlast := (Expression.closesWell_iff e.repair).1 hclose hne
    rw [hall _ (Expression.mem_of_mem_repair (List.getLast_mem hne) hlast)] at hlast
    cases hlast

/-- A group is no operator, so a vanished one is the only one of which every token is. -/
theorem Expression.asGroup_all_isOperator_iff (e : Expression) :
    (∀ t ∈ e.asGroup, t.isOperator = true) ↔ e = [] := by
  cases e with
  | nil => simp [Expression.asGroup]
  | cons t ts => simp [Expression.asGroup, Token.isOperator]

mutual

theorem Token.terms_repaired (t : Token) : (Expression.terms t.repaired).Sublist t.terms := by
  cases t with
  | group children =>
    rw [Token.repaired, Expression.terms_asGroup]
    exact (Expression.terms_repair _).trans (Expression.terms_repairedGroups children)
  | _ => exact List.Sublist.refl _

/-- Repairing the groups of a level invents, reorders and duplicates no term. -/
theorem Expression.terms_repairedGroups (e : Expression) :
    (Expression.terms (Expression.repairedGroups e)).Sublist (Expression.terms e) := by
  cases e with
  | nil => exact .slnil
  | cons t ts =>
    rw [Expression.repairedGroups, Expression.terms_append]
    exact (Token.terms_repaired t).append (Expression.terms_repairedGroups ts)

end

mutual

theorem Token.repaired_all_isOperator_iff (t : Token) :
    (∀ u ∈ t.repaired, u.isOperator = true) ↔ t.terms = [] := by
  cases t with
  | group children =>
    rw [Token.repaired, Expression.asGroup_all_isOperator_iff, Expression.repair_eq_nil_iff,
      Expression.repairedGroups_all_isOperator_iff children, Token.terms]
  | _ => simp [Token.repaired, Token.isOperator, Token.terms]

/-- Nothing but operators is left beside the repaired groups exactly if there is no term. -/
theorem Expression.repairedGroups_all_isOperator_iff (e : Expression) :
    (∀ t ∈ Expression.repairedGroups e, t.isOperator = true) ↔ Expression.terms e = [] := by
  cases e with
  | nil => simp [Expression.repairedGroups, Expression.terms]
  | cons t ts =>
    rw [Expression.repairedGroups, Expression.terms, List.append_eq_nil_iff,
      List.forall_mem_append, Token.repaired_all_isOperator_iff t,
      Expression.repairedGroups_all_isOperator_iff ts]

end

/-- **Repair invents, reorders and duplicates no term**: those of the normal form are among those of
the expression, in order.  And it never empties an expression that has one: the normal form is empty
exactly if there is no term at any depth. -/
theorem terms_filter (e : Expression) :
    e.filter.terms.Sublist e.terms ∧ (e.filter = [] ↔ e.terms = []) := by
  constructor
  · exact (Expression.terms_repair _).trans (Expression.terms_repairedGroups e)
  · rw [Expression.filter, Expression.repair_eq_nil_iff,
      Expression.repairedGroups_all_isOperator_iff]

end BooleanSearch
