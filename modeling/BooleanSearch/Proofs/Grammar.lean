import Mathlib.Data.List.Induction
import BooleanSearch.Proofs.Normalisation

/-!
# The grammar of composed filters

A filter is a chain of operands joined by binary operators, perhaps negated in front; an operand
is a fragment or a filter in parentheses.  Composing checks nothing, so that a composed filter is
such a chain rests on the normal form alone.

* `FilterText`, `OperandText`, `JoinedText` — the grammar, each derivation with the fragments that
  it reads, in order;
* `Expression.rendered` — an expression with given fragments for its terms;
* `Expression.compose_eq_rendered` — composing succeeds if each term has its fragment;
* `Expression.joinedText_rendered`, `Expression.filterText_rendered` — a normal level is derived if
  its operands are;
* `Token.operandText_rendered` — they are, by induction over the groups;
* `compose_filter_derivable` — the statement for repaired expressions and for search texts.
-/

namespace BooleanSearch

/-! ## The grammar -/

/-- The operators that join two operands. -/
def binaryKeywords : List String :=
  ["AND", "OR", "AND NOT", "OR NOT"]

mutual

/-- A whole filter: operands joined by binary operators, with or without `NOT` in front. -/
inductive FilterText : List String → String → Prop
  | plain {fragments fragments' : List String} {first rest : String} :
      OperandText fragments first → JoinedText fragments' rest →
        FilterText (fragments ++ fragments') (first ++ rest)
  | negated {fragments fragments' : List String} {first rest : String} :
      OperandText fragments first → JoinedText fragments' rest →
        FilterText (fragments ++ fragments') (" NOT " ++ (first ++ rest))

/-- An operand: one fragment, or a filter in parentheses. -/
inductive OperandText : List String → String → Prop
  | fragment (text : String) : OperandText [text] text
  | group {fragments : List String} {inner : String} :
      FilterText fragments inner → OperandText fragments ("(" ++ inner ++ ")")

/-- What follows the first operand: further ones, each behind a binary operator. -/
inductive JoinedText : List String → String → Prop
  | nil : JoinedText [] ""
  | cons {keyword : String} {fragments fragments' : List String} {operand rest : String} :
      keyword ∈ binaryKeywords → OperandText fragments operand → JoinedText fragments' rest →
        JoinedText (fragments ++ fragments') (" " ++ keyword ++ " " ++ (operand ++ rest))

end

/-! ## Rendering with given fragments -/

section Rendered

variable (fragment : Term → String)

mutual

/-- The text of a token, with `fragment` for its terms. -/
def Token.rendered : Token → String
  | .bare text => fragment ⟨text, false⟩
  | .phrase text => fragment ⟨text, true⟩
  | .operator op => " " ++ op.keyword ++ " "
  | .group children => "(" ++ Expression.rendered children ++ ")"

/-- The text of an expression, with `fragment` for its terms. -/
def Expression.rendered : Expression → String
  | [] => ""
  | t :: ts => t.rendered ++ Expression.rendered ts

end

variable {fragment} {f : Formatter}

mutual

theorem Token.compose_eq_rendered (t : Token)
    (hf : ∀ term ∈ t.terms, f term = .ok (fragment term)) :
    t.compose f = .ok (t.rendered fragment) := by
  cases t with
  | bare text => exact hf _ (List.mem_singleton_self _)
  | phrase text => exact hf _ (List.mem_singleton_self _)
  | operator op => rfl
  | group children =>
    exact Token.compose_group_eq_ok_iff.2 ⟨_, Expression.compose_eq_rendered children hf, rfl⟩

/-- **Composing succeeds** where every term has its fragment, and gives the rendering. -/
theorem Expression.compose_eq_rendered (e : Expression)
    (hf : ∀ term ∈ Expression.terms e, f term = .ok (fragment term)) :
    Expression.compose f e = .ok (Expression.rendered fragment e) := by
  cases e with
  | nil => rfl
  | cons t ts =>
    have ht := Token.compose_eq_rendered t fun term h => hf term (List.mem_append_left _ h)
    have hts := Expression.compose_eq_rendered ts fun term h => hf term (List.mem_append_right _ h)
    exact Expression.compose_cons_eq_ok_iff.2 ⟨_, ht, _, hts, rfl⟩

end

/-! ## Derivations -/

/-- An operator that is not bare negation joins two operands. -/
theorem Operator.keyword_mem_binaryKeywords {op : Operator} (h : op ≠ .not) :
    op.keyword ∈ binaryKeywords := by
  cases op with
  | not => exact absurd rfl h
  | _ => decide

/-- The operands of a level are derived from the grammar. -/
def Expression.OperandsDerived (fragment : Term → String) (e : Expression) : Prop :=
  ∀ t ∈ e, t.isOperator = false → OperandText (t.terms.map fragment) (t.rendered fragment)

/-- **What follows an operand in a normal level** is derived from the grammar if its operands are.
The induction takes an operator and its right operand in one step. -/
theorem Expression.joinedText_rendered {previous : Token} {ts : Expression}
    (hprevious : previous.isOperator = false)
    (halt : Expression.alternates (previous :: ts) = true)
    (hclose : Expression.closesWell (previous :: ts) = true)
    (hnot : ∀ t ∈ ts, t.operator? ≠ some .not)
    (hoperands : Expression.OperandsDerived fragment ts) :
    JoinedText ((Expression.terms ts).map fragment) (Expression.rendered fragment ts) := by
  induction ts using List.twoStepInduction generalizing previous with
  | nil => exact .nil
  | singleton u =>
    have hu : u.isOperator = true := by simpa [Expression.alternates, hprevious] using halt
    have hu' : u.isOperator = false := by simpa [Expression.closesWell] using hclose
    rw [hu] at hu'
    cases hu'
  | cons_cons u t rest ih _ =>
    obtain ⟨hne, halt'⟩ := Bool.and_eq_true_iff.1 halt
    obtain ⟨hne', hrestAlt⟩ := Bool.and_eq_true_iff.1 halt'
    have hu : u.isOperator = true := by simpa [hprevious] using hne
    have ht : t.isOperator = false := by simpa [hu] using hne'
    cases u with
    | operator op =>
      have hkeyword : op.keyword ∈ binaryKeywords :=
        Operator.keyword_mem_binaryKeywords fun h =>
          hnot _ List.mem_cons_self (congrArg some h)
      have hoperand := hoperands t (List.mem_cons_of_mem _ List.mem_cons_self) ht
      have hrest := ih ht hrestAlt (Expression.closesWell_tail (Expression.closesWell_tail hclose))
        (fun v hv => hnot v (List.mem_cons_of_mem _ (List.mem_cons_of_mem _ hv)))
        (fun v hv => hoperands v (List.mem_cons_of_mem _ (List.mem_cons_of_mem _ hv)))
      have hjoined := JoinedText.cons hkeyword hoperand hrest
      rw [← List.map_append] at hjoined
      exact hjoined
    | _ => cases hu

/-- **A normal level that is not empty** is derived from the grammar if its operands are. -/
theorem Expression.filterText_rendered {e : Expression} (hne : e ≠ [])
    (hlevel : Expression.levelIsNormal e = true)
    (hoperands : Expression.OperandsDerived fragment e) :
    FilterText ((Expression.terms e).map fragment) (Expression.rendered fragment e) := by
  simp only [Expression.levelIsNormal, Bool.and_eq_true] at hlevel
  obtain ⟨⟨⟨hopen, halt⟩, hclose⟩, hnot⟩ := hlevel
  have hnot : ∀ t ∈ e.tail, t.operator? ≠ some .not :=
    fun t ht => bne_iff_ne.1 (List.all_eq_true.1 hnot t ht)
  have hoperandsTail : ∀ {t : Token} {ts : Expression},
      Expression.OperandsDerived fragment (t :: ts) → Expression.OperandsDerived fragment ts :=
    fun h u hu => h u (List.mem_cons_of_mem _ hu)
  cases e with
  | nil => exact absurd rfl hne
  | cons t ts =>
    cases hop : t.isOperator with
    | false =>
      have hjoined :=
        Expression.joinedText_rendered hop halt hclose hnot (hoperandsTail hoperands)
      have htext := FilterText.plain (hoperands t List.mem_cons_self hop) hjoined
      rw [← List.map_append] at htext
      exact htext
    | true =>
      cases t with
      | operator op =>
        cases ts with
        | nil => cases hclose
        | cons u rest =>
          obtain rfl : op = .not := by
            simpa [Expression.opensWell] using (Bool.and_eq_true_iff.1 hopen).1
          obtain ⟨hne', hrestAlt⟩ := Bool.and_eq_true_iff.1 halt
          have hu : u.isOperator = false := by simpa [Token.isOperator] using hne'
          have hoperands := hoperandsTail hoperands
          have hjoined := Expression.joinedText_rendered hu hrestAlt
            (Expression.closesWell_tail hclose) (fun v hv => hnot v (List.mem_cons_of_mem u hv))
            (hoperandsTail hoperands)
          have htext := FilterText.negated (hoperands u List.mem_cons_self hu) hjoined
          rw [← List.map_append] at htext
          exact htext
      | _ => cases hop

mutual

/-- A normal operand is derived from the grammar. -/
theorem Token.operandText_rendered (t : Token) (hop : t.isOperator = false)
    (hnormal : t.isNormalised = true) :
    OperandText (t.terms.map fragment) (t.rendered fragment) := by
  cases t with
  | bare text => exact .fragment _
  | phrase text => exact .fragment _
  | operator op => cases hop
  | group children =>
    rw [Token.isNormalised, Bool.and_eq_true, Bool.and_eq_true, Bool.not_eq_true',
      List.isEmpty_eq_false_iff] at hnormal
    obtain ⟨⟨hne, hlevel⟩, hgroups⟩ := hnormal
    exact .group (Expression.filterText_rendered hne hlevel
      (Expression.operandsDerived_of_groupsAreNormal children hgroups))

/-- Where the groups are normal, every operand is derived from the grammar. -/
theorem Expression.operandsDerived_of_groupsAreNormal (e : Expression)
    (hgroups : Expression.groupsAreNormal e = true) :
    Expression.OperandsDerived fragment e := by
  cases e with
  | nil => exact nofun
  | cons t ts =>
    obtain ⟨ht, hts⟩ := Bool.and_eq_true_iff.1 hgroups
    exact List.forall_mem_cons.2 ⟨fun hop => Token.operandText_rendered t hop ht,
      Expression.operandsDerived_of_groupsAreNormal ts hts⟩

end

end Rendered

/-! ## Composed filters -/

/-- The fragment of a term, for terms that have one. -/
def Formatter.fragment (f : Formatter) (term : Term) : String :=
  match f term with
  | .ok text => text
  | .error _ => ""

theorem Formatter.eq_ok_fragment {f : Formatter} {term : Term} (h : ∃ text, f term = .ok text) :
    f term = .ok (f.fragment term) := by
  obtain ⟨text, htext⟩ := h
  rw [Formatter.fragment, htext]

/-- The filter of an expression in normal form: empty or derived from the grammar, with the
fragments of its terms in reading order. -/
theorem compose_derivable {f : Formatter} {e : Expression} (hnormal : e.isNormalised = true)
    (hf : ∀ term ∈ e.terms, ∃ text, f term = .ok text) :
    ∃ fragments filter, e.terms.map f = fragments.map .ok ∧ e.compose f = .ok filter ∧
      (e = [] → filter = "") ∧ (e ≠ [] → FilterText fragments filter) := by
  have hfragment : ∀ term ∈ e.terms, f term = .ok (f.fragment term) :=
    fun term hterm => Formatter.eq_ok_fragment (hf term hterm)
  obtain ⟨hlevel, hgroups⟩ := Bool.and_eq_true_iff.1 hnormal
  refine ⟨e.terms.map f.fragment, Expression.rendered f.fragment e, ?_,
    Expression.compose_eq_rendered e hfragment, ?_, fun hne =>
      Expression.filterText_rendered hne hlevel
        (Expression.operandsDerived_of_groupsAreNormal e hgroups)⟩
  · rw [List.map_map]
    exact List.map_congr_left hfragment
  · rintro rfl
    rfl

/-- **Every composed filter is well formed.**  If each term of a repaired expression has a fragment,
composing succeeds; the filter is empty if the expression is, and otherwise derived from the grammar
with exactly those fragments, in reading order.  The same holds for the query of any text. -/
theorem compose_filter_derivable (f : Formatter) :
    (∀ e : Expression, (∀ term ∈ e.filter.terms, ∃ text, f term = .ok text) →
      ∃ fragments filter, e.filter.terms.map f = fragments.map .ok ∧
        e.filter.compose f = .ok filter ∧
        (e.filter = [] → filter = "") ∧ (e.filter ≠ [] → FilterText fragments filter)) ∧
    ∀ text : String, (∀ term ∈ (Query.parse .default text).terms, ∃ s, f term = .ok s) →
      ∃ fragments filter, (Query.parse .default text).terms.map f = fragments.map .ok ∧
        composeText f text = .ok filter ∧
        ((Query.parse .default text).isEmpty = true → filter = "") ∧
        ((Query.parse .default text).isEmpty = false → FilterText fragments filter) := by
  refine ⟨fun e hf => compose_derivable (Expression.isNormalised_filter e) hf, fun text hf => ?_⟩
  obtain ⟨fragments, filter, hfragments, hcompose, hempty, hderived⟩ :=
    compose_derivable (Query.parse .default text).normal hf
  refine ⟨fragments, filter, hfragments, hcompose, fun h => ?_, fun h => ?_⟩
  · exact hempty (List.isEmpty_iff.1 h)
  · exact hderived (List.isEmpty_eq_false_iff.1 h)

/-- A text that opens with a negation, repeats operators and leaves a group open. -/
theorem compose_filter_derivable_group :
    (∀ term ∈ (Query.parse .default "AND NOT a OR  OR (\"b\" NOT c").terms,
        ∃ s, ((fun term => .ok term.text) : Formatter) term = .ok s) ∧
      composeText (fun term => .ok term.text) "AND NOT a OR  OR (\"b\" NOT c" =
        .ok " NOT a OR (b AND NOT c)" ∧
      FilterText ["a", "b", "c"] " NOT a OR (b AND NOT c)" := by
  have hf : ∀ term ∈ (Query.parse .default "AND NOT a OR  OR (\"b\" NOT c").terms,
      ∃ s, ((fun term => .ok term.text) : Formatter) term = .ok s :=
    fun term _ => ⟨term.text, rfl⟩
  have hquery : Query.parse .default "AND NOT a OR  OR (\"b\" NOT c" =
      ⟨[.operator .not, .bare "a", .operator .or,
        .group [.phrase "b", .operator .andNot, .bare "c"]], rfl⟩ := by decide +kernel
  have hfilter : composeText (fun term => .ok term.text) "AND NOT a OR  OR (\"b\" NOT c" =
      .ok " NOT a OR (b AND NOT c)" := by
    rw [composeText, hquery]
    rfl
  obtain ⟨fragments, filter, hfragments, hcompose, -, hderived⟩ :=
    (compose_filter_derivable fun term => .ok term.text).2 _ hf
  obtain rfl : " NOT a OR (b AND NOT c)" = filter := Except.ok.inj (hfilter.symm.trans hcompose)
  obtain rfl : ["a", "b", "c"] = fragments := by
    rw [hquery] at hfragments
    exact List.map_injective_iff.2 (fun _ _ h => Except.ok.inj h) hfragments
  exact ⟨hf, hfilter, hderived (by rw [hquery]; rfl)⟩

end BooleanSearch
