import BooleanSearch.NormalForm

/-!
# What repair gives is in normal form

The rules of the normal form and the repair are stated apart.  Here the repair is shown to end in
the rules, level by level and then for whole trees.

* `Expression.alternates_changes` — the invariant of the pass over a level;
* `Expression.levelIsNormal_repair` — a repaired level obeys the rules;
* `Expression.groupsAreNormal_repair` — and its groups stay as normal as they were;
* `Expression.isNormalised_filter` — so a repaired tree is in normal form.
-/

namespace BooleanSearch

/-! ## Neighbours -/

/-- The class of a token does not change when it is rewritten. -/
@[simp]
theorem Token.isOperator_leadingForm (t : Token) : t.leadingForm.isOperator = t.isOperator := by
  unfold Token.leadingForm
  split <;> rfl

@[simp]
theorem Token.isOperator_innerForm (t : Token) : t.innerForm.isOperator = t.isOperator := by
  unfold Token.innerForm
  split <;> rfl

/-- Rewriting changes operators only. -/
theorem Token.leadingForm_of_operand {t : Token} (h : t.isOperator = false) :
    t.leadingForm = t := by
  unfold Token.leadingForm
  split
  · cases h
  · rfl

theorem Token.innerForm_of_operand {t : Token} (h : t.isOperator = false) : t.innerForm = t := by
  unfold Token.innerForm
  split
  · cases h
  · rfl

/-- The inner form is never a bare negation. -/
theorem Token.operator?_innerForm (t : Token) : t.innerForm.operator? ≠ some .not := by
  unfold Token.innerForm
  split
  · exact nofun
  · rename_i hne
    intro h
    cases t with
    | operator op => exact hne (congrArg Token.operator (Option.some.inj h))
    | _ => cases h

/-- A level that alternates does so up to any point. -/
theorem Expression.alternates_of_prefix {front e : Expression} (h : front <+: e)
    (halt : e.alternates = true) : front.alternates = true := by
  obtain ⟨rest, rfl⟩ := h
  induction front with
  | nil => rfl
  | cons t ts ih =>
    cases ts with
    | nil => rfl
    | cons u us =>
      obtain ⟨hne, halt⟩ := Bool.and_eq_true_iff.1 halt
      rw [Expression.alternates, hne, Bool.true_and]
      exact ih halt

/-- **Invariant of the pass**: the token kept last is of the class of the token read last, so what
is kept alternates. -/
theorem Expression.alternates_changes {kept previous : Token}
    (h : kept.isOperator = previous.isOperator) (ts : Expression) :
    Expression.alternates (kept :: Expression.changes previous ts) = true := by
  induction ts generalizing kept previous with
  | nil => rfl
  | cons t ts ih =>
    rw [Expression.changes]
    split
    · rename_i hne
      rw [Expression.alternates, h, Token.isOperator_innerForm, hne, Bool.true_and]
      exact ih (Token.isOperator_innerForm t)
    · rename_i hsame
      refine ih (h.trans ?_)
      simpa using hsame

/-- Every token that is kept was read, and is kept in its inner form. -/
theorem Expression.mem_changes {previous t : Token} {ts : Expression}
    (h : t ∈ Expression.changes previous ts) : ∃ u ∈ ts, t = u.innerForm := by
  induction ts generalizing previous with
  | nil => cases h
  | cons u ts ih =>
    rw [Expression.changes] at h
    split at h
    · obtain rfl | h := List.mem_cons.1 h
      · exact ⟨u, List.mem_cons_self, rfl⟩
      · obtain ⟨v, hv, rfl⟩ := ih h
        exact ⟨v, List.mem_cons_of_mem u hv, rfl⟩
    · obtain ⟨v, hv, rfl⟩ := ih h
      exact ⟨v, List.mem_cons_of_mem u hv, rfl⟩

/-! ## The end of a level -/

/-- Dropping dangling operators cuts the level at its end. -/
theorem Expression.dropDangling_prefix (e : Expression) : e.dropDangling <+: e := by
  have hsuffix : e.reverse.dropWhile Token.isOperator <:+ e.reverse := List.dropWhile_suffix _
  rw [← List.reverse_prefix, List.reverse_reverse] at hsuffix
  exact hsuffix

theorem Expression.closesWell_dropDangling (e : Expression) : e.dropDangling.closesWell = true := by
  have hnot := List.head?_dropWhile_not Token.isOperator e.reverse
  rw [Expression.closesWell, Expression.dropDangling, List.getLast?_reverse]
  cases hhead : (e.reverse.dropWhile Token.isOperator).head? with
  | none => rfl
  | some t =>
    rw [hhead] at hnot
    rw [Option.any_some, hnot]
    rfl

/-! ## One level -/

/-- What opens a level after its leading operators are dropped joins nothing. -/
theorem Expression.joinsOnly_eq_false {e : Expression} {first : Token} {tail : Expression}
    (h : e.dropWhile Token.joinsOnly = first :: tail) : first.joinsOnly = false := by
  have hnot := List.head?_dropWhile_not Token.joinsOnly e
  rw [h] at hnot
  simpa using hnot

/-- An operator that may open a level is `NOT` in its leading form. -/
theorem Token.leadingForm_eq_operator {t : Token} {op : Operator} (hjoins : t.joinsOnly = false)
    (h : t.leadingForm = .operator op) : op = .not := by
  cases t with
  | operator op' =>
    cases op' with
    | and | or | orNot => cases hjoins
    | andNot | not => cases h; rfl
  | _ => cases h

/-- What opens a repaired level is an operand, or `NOT` in front of one. -/
theorem Expression.opensWell_leadingForm {first : Token} {rest : Expression}
    (hjoins : first.joinsOnly = false)
    (hclose : Expression.closesWell (first.leadingForm :: rest) = true) :
    Expression.opensWell (first.leadingForm :: rest) = true := by
  cases hform : first.leadingForm with
  | operator op =>
    obtain rfl := Token.leadingForm_eq_operator hjoins hform
    cases rest with
    | nil =>
      rw [hform] at hclose
      cases hclose
    | cons u rest => rfl
  | _ => rfl

theorem Expression.straighten_of_nil {e : Expression} (h : e.dropWhile Token.joinsOnly = []) :
    e.straighten = [] := by
  rw [Expression.straighten, h]

theorem Expression.straighten_of_cons {e : Expression} {first : Token} {tail : Expression}
    (h : e.dropWhile Token.joinsOnly = first :: tail) :
    e.straighten =
      first.leadingForm :: Expression.changes first (Expression.cutTrailing tail) := by
  rw [Expression.straighten, h]

/-- **A repaired level obeys the rules.** -/
theorem Expression.levelIsNormal_repair (e : Expression) : e.repair.levelIsNormal = true := by
  have hfront : e.repair <+: e.straighten := Expression.dropDangling_prefix e.straighten
  have hclose : e.repair.closesWell = true := Expression.closesWell_dropDangling e.straighten
  cases hdrop : e.dropWhile Token.joinsOnly with
  | nil =>
    rw [Expression.straighten_of_nil hdrop, List.prefix_nil] at hfront
    rw [hfront]
    rfl
  | cons first tail =>
    rw [Expression.straighten_of_cons hdrop] at hfront
    cases hrepair : e.repair with
    | nil => rfl
    | cons t rest =>
      rw [hrepair] at hfront hclose
      obtain ⟨rfl, hrest⟩ := List.cons_prefix_cons.1 hfront
      have hopen := Expression.opensWell_leadingForm (Expression.joinsOnly_eq_false hdrop) hclose
      have halt : Expression.alternates (first.leadingForm :: rest) = true := by
        refine Expression.alternates_of_prefix hfront ?_
        exact Expression.alternates_changes (Token.isOperator_leadingForm first) _
      have hnot : (rest.all fun t => t.operator? != some .not) = true := by
        refine List.all_eq_true.2 fun t ht => ?_
        obtain ⟨u, -, rfl⟩ := Expression.mem_changes (hrest.subset ht)
        exact bne_iff_ne.2 (Token.operator?_innerForm u)
      rw [Expression.levelIsNormal, hopen, halt, hclose, List.tail_cons, hnot]
      rfl

/-! ## Groups -/

theorem Expression.groupsAreNormal_iff (e : Expression) :
    Expression.groupsAreNormal e = true ↔ ∀ t ∈ e, t.isNormalised = true := by
  induction e with
  | nil => exact iff_of_true rfl nofun
  | cons t ts ih => rw [Expression.groupsAreNormal, Bool.and_eq_true, ih, List.forall_mem_cons]

theorem Token.isNormalised_of_isOperator {t : Token} (h : t.isOperator = true) :
    t.isNormalised = true := by
  cases t with
  | operator op => rfl
  | _ => cases h

theorem Expression.mem_of_mem_cutTrailing {t : Token} {e : Expression} (h : t ∈ e.cutTrailing) :
    t ∈ e := by
  rw [Expression.cutTrailing] at h
  split at h
  · exact List.dropLast_subset e h
  · exact h

/-- Repairing a level invents no operand. -/
theorem Expression.mem_of_mem_repair {t : Token} {e : Expression} (h : t ∈ e.repair)
    (hop : t.isOperator = false) : t ∈ e := by
  have hfront : e.repair <+: e.straighten := Expression.dropDangling_prefix e.straighten
  have hmem := hfront.subset h
  cases hdrop : e.dropWhile Token.joinsOnly with
  | nil =>
    rw [Expression.straighten_of_nil hdrop] at hmem
    cases hmem
  | cons first tail =>
    have hsub : first :: tail ⊆ e := hdrop ▸ (List.dropWhile_suffix Token.joinsOnly).subset
    rw [Expression.straighten_of_cons hdrop] at hmem
    obtain rfl | hmem := List.mem_cons.1 hmem
    · rw [Token.isOperator_leadingForm] at hop
      rw [Token.leadingForm_of_operand hop]
      exact hsub List.mem_cons_self
    · obtain ⟨u, hu, rfl⟩ := Expression.mem_changes hmem
      rw [Token.isOperator_innerForm] at hop
      rw [Token.innerForm_of_operand hop]
      exact hsub (List.mem_cons_of_mem _ (Expression.mem_of_mem_cutTrailing hu))

/-- Repairing a level keeps its groups in normal form. -/
theorem Expression.groupsAreNormal_repair {e : Expression}
    (h : Expression.groupsAreNormal e = true) : Expression.groupsAreNormal e.repair = true := by
  rw [Expression.groupsAreNormal_iff] at h ⊢
  intro t ht
  by_cases hop : t.isOperator = true
  · exact Token.isNormalised_of_isOperator hop
  · exact h t (Expression.mem_of_mem_repair ht (eq_false_of_ne_true hop))

mutual

theorem Token.groupsAreNormal_repaired (t : Token) :
    Expression.groupsAreNormal t.repaired = true := by
  cases t with
  | group children =>
    have hgroups :=
      Expression.groupsAreNormal_repair (Expression.groupsAreNormal_repairedGroups children)
    have hlevel := Expression.levelIsNormal_repair (Expression.repairedGroups children)
    rw [Token.repaired]
    cases hinner : Expression.repair (Expression.repairedGroups children) with
    | nil => rfl
    | cons u us =>
      rw [hinner] at hgroups hlevel
      rw [Expression.asGroup, Expression.groupsAreNormal, Token.isNormalised, hlevel, hgroups]
      rfl
  | _ => rfl

/-- Repaired groups are in normal form. -/
theorem Expression.groupsAreNormal_repairedGroups (e : Expression) :
    Expression.groupsAreNormal (Expression.repairedGroups e) = true := by
  cases e with
  | nil => rfl
  | cons t ts =>
    have ht := (Expression.groupsAreNormal_iff _).1 (Token.groupsAreNormal_repaired t)
    have hts := (Expression.groupsAreNormal_iff _).1 (Expression.groupsAreNormal_repairedGroups ts)
    rw [Expression.repairedGroups, Expression.groupsAreNormal_iff]
    intro u hu
    exact (List.mem_append.1 hu).elim (ht u) (hts u)

end

/-! ## The tree -/

/-- **A repaired tree is in normal form.** -/
theorem Expression.isNormalised_filter (e : Expression) : e.filter.isNormalised = true := by
  rw [Expression.isNormalised, Expression.filter, Expression.levelIsNormal_repair,
    Expression.groupsAreNormal_repair (Expression.groupsAreNormal_repairedGroups e)]
  rfl

end BooleanSearch
