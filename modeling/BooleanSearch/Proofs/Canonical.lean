import BooleanSearch.NormalForm
import BooleanSearch.Token.Written
import BooleanSearch.Proofs.Parentheses

/-!
# Canonical expressions

An expression is canonical when its written form can be read back: its texts hold nothing that a
reader takes for a border or an operator, and no two neighbours run into one another.

* `Expression.isCanonical` — the conditions, at every level;
* `Expression.balanced_written` — what stands inside a group is balanced;
* `Expression.firstWord_written`, `Expression.atBoundary_written` — how a written level begins;
* `Token.IsTight`, `Expression.getLast?_written` — a written level has a delimiter at its ends only
  where an operator stands;
* `Expression.trim_written` — what trimming takes from it.
-/

namespace BooleanSearch

/-! ## The conditions -/

/-- Bare text that is read back as one term.  `inside` says that it stands in a group. -/
@[mk_iff]
structure BareText (inside : Bool) (text : List Char) : Prop where
  ne_nil : text ≠ []
  head : text.head?.any isDelimiter = false
  last : text.getLast?.any isDelimiter = false
  no_quote : '"' ∉ text
  no_open : '(' ∉ text
  no_close : inside = true → ')' ∉ text
  no_keyword : (words text).any isKeywordWord = false

/-- Text that is read back as one phrase.  `inside` says that it stands in a group. -/
@[mk_iff]
structure PhraseText (inside : Bool) (text : List Char) : Prop where
  no_quote : '"' ∉ text
  not_blank : isBlank text = false
  balanced : inside = true → Balanced text

instance (inside : Bool) (text : List Char) : Decidable (BareText inside text) :=
  decidable_of_iff _ (bareText_iff inside text).symm

instance (inside : Bool) (text : List Char) : Decidable (PhraseText inside text) :=
  decidable_of_iff _ (phraseText_iff inside text).symm

/-- Is the token a bare term? -/
def Token.isBare : Token → Bool
  | .bare _ => true
  | _ => false

/-- No two bare terms are neighbours. -/
def Expression.termsApart : Expression → Bool
  | t :: u :: rest => !(t.isBare && u.isBare) && Expression.termsApart (u :: rest)
  | _ => true

/-- The conditions on one level, its texts and groups aside. -/
def Expression.levelIsCanonical (e : Expression) : Bool :=
  e.termsApart && e.closesWell

mutual

/-- The conditions on one token.  A group is not empty. -/
def Token.isCanonical (inside : Bool) : Token → Bool
  | .bare text => decide (BareText inside text.toList)
  | .phrase text => decide (PhraseText inside text.toList)
  | .operator _ => true
  | .group children =>
    !children.isEmpty && Expression.levelIsCanonical children &&
      Expression.tokensAreCanonical true children

/-- The conditions on each token of a level. -/
def Expression.tokensAreCanonical (inside : Bool) : Expression → Bool
  | [] => true
  | t :: ts => t.isCanonical inside && Expression.tokensAreCanonical inside ts

end

/-- The conditions hold at every level; the outermost one stands in no group. -/
def Expression.isCanonical (e : Expression) : Bool :=
  Expression.levelIsCanonical e && Expression.tokensAreCanonical false e

theorem Expression.tokensAreCanonical_cons {inside : Bool} {t : Token} {ts : Expression} :
    Expression.tokensAreCanonical inside (t :: ts) = true ↔
      t.isCanonical inside = true ∧ Expression.tokensAreCanonical inside ts = true := by
  rw [Expression.tokensAreCanonical, Bool.and_eq_true]

theorem Token.isCanonical_group {inside : Bool} {children : Expression} :
    (Token.group children).isCanonical inside = true ↔ children ≠ [] ∧
      children.levelIsCanonical = true ∧ Expression.tokensAreCanonical true children = true := by
  rw [Token.isCanonical, Bool.and_eq_true, Bool.and_eq_true, Bool.not_eq_true',
    List.isEmpty_eq_false_iff, and_assoc]

theorem Expression.termsApart_of_cons {t : Token} {ts : Expression}
    (h : Expression.termsApart (t :: ts) = true) : ts.termsApart = true := by
  cases ts with
  | nil => rfl
  | cons u rest => exact (Bool.and_eq_true_iff.1 h).2

/-- Behind a bare term no other one stands. -/
theorem Expression.head_not_bare {text : String} {ts : Expression}
    (h : Expression.termsApart (.bare text :: ts) = true) : ∀ t ∈ ts.head?, t.isBare = false := by
  cases ts with
  | nil =>
    intro t ht
    cases ht
  | cons u rest =>
    intro t ht
    obtain rfl : u = t := Option.some.inj ht
    simpa [Expression.termsApart, Token.isBare] using (Bool.and_eq_true_iff.1 h).1

/-! ## What stands inside a group -/

theorem balanced_keyword (op : Operator) : Balanced (Token.operator op).written := by
  cases op <;> decide

mutual

/-- Inside a group each token is written with balanced parentheses. -/
theorem Token.balanced_written (t : Token) (h : t.isCanonical true = true) :
    Balanced t.written := by
  cases t with
  | bare text =>
    have htext : BareText true text.toList := of_decide_eq_true h
    exact Balanced.of_not_mem htext.no_open (htext.no_close rfl)
  | phrase text =>
    have htext : PhraseText true text.toList := of_decide_eq_true h
    have hquote : Balanced ['"'] := by decide
    exact (hquote.append (htext.balanced rfl)).append hquote
  | operator op => exact balanced_keyword op
  | group children =>
    obtain ⟨-, -, hchildren⟩ := Token.isCanonical_group.1 h
    exact (Expression.balanced_written children hchildren).trim.bracket

/-- Inside a group a level is written with balanced parentheses. -/
theorem Expression.balanced_written (e : Expression)
    (h : Expression.tokensAreCanonical true e = true) : Balanced (Expression.written e) := by
  cases e with
  | nil => exact (by decide : Balanced [])
  | cons t ts =>
    obtain ⟨ht, hts⟩ := Expression.tokensAreCanonical_cons.1 h
    exact (Token.balanced_written t ht).append (Expression.balanced_written ts hts)

end

/-! ## How a written level begins -/

/-- Unless a bare term comes first, a written level begins at a boundary. -/
theorem Expression.atBoundary_written {e : Expression} (h : ∀ t ∈ e.head?, t.isBare = false) :
    AtBoundary (Expression.written e) := by
  intro c hc
  cases e with
  | nil => cases hc
  | cons t ts =>
    cases t with
    | bare text => cases h _ rfl
    | phrase text =>
      obtain rfl : '"' = c := Option.some.inj hc
      exact .inr (.inl rfl)
    | operator op =>
      obtain rfl : ' ' = c := Option.some.inj hc
      exact .inl rfl
    | group children =>
      obtain rfl : '(' = c := Option.some.inj hc
      exact .inr (.inr rfl)

/-- A level never begins with a keyword that is not behind a space. -/
theorem Expression.firstWord_written {inside : Bool} {e : Expression}
    (hcanon : Expression.tokensAreCanonical inside e = true) (hapart : e.termsApart = true) :
    isKeywordWord (firstWord (Expression.written e)) = false := by
  cases e with
  | nil => rfl
  | cons t ts =>
    obtain ⟨ht, -⟩ := Expression.tokensAreCanonical_cons.1 hcanon
    cases t with
    | bare text =>
      have htext : BareText inside text.toList := of_decide_eq_true ht
      exact firstWord_append htext.no_keyword
        (Expression.atBoundary_written (Expression.head_not_bare hapart))
    | phrase text =>
      rw [← Bool.not_eq_true]
      intro hkey
      exact (isKeywordWord_ne hkey (c := '"') List.mem_cons_self).1 rfl
    | operator op => rfl
    | group children =>
      rw [← Bool.not_eq_true]
      intro hkey
      exact (isKeywordWord_ne hkey (c := '(') List.mem_cons_self).2 rfl

/-! ## The ends of a written level -/

/-- Written as something, with no delimiter at its ends. -/
def Token.IsTight (t : Token) : Prop :=
  t.written ≠ [] ∧ t.written.head?.any isDelimiter = false ∧
    t.written.getLast?.any isDelimiter = false

/-- Every operand of the level is tight. -/
def Expression.OperandsTight (e : Expression) : Prop :=
  ∀ t ∈ e, t.isOperator = false → t.IsTight

/-- What stands in quotes or parentheses is tight. -/
theorem isTight_of_enclosed {t : Token} {opening closing : Char} {text : List Char}
    (h : t.written = opening :: text ++ [closing]) (hopening : isDelimiter opening = false)
    (hclosing : isDelimiter closing = false) : t.IsTight := by
  rw [Token.IsTight, h]
  refine ⟨List.cons_ne_nil _ _, hopening, ?_⟩
  rw [List.getLast?_append]
  exact hclosing

/-- Every operand of a canonical level is tight. -/
theorem Expression.operandsTight_of_canonical {inside : Bool} {e : Expression}
    (h : Expression.tokensAreCanonical inside e = true) : e.OperandsTight := by
  induction e with
  | nil => exact nofun
  | cons t ts ih =>
    obtain ⟨ht, hts⟩ := Expression.tokensAreCanonical_cons.1 h
    refine List.forall_mem_cons.2 ⟨fun hop => ?_, ih hts⟩
    cases t with
    | bare text =>
      have htext : BareText inside text.toList := of_decide_eq_true ht
      exact ⟨htext.ne_nil, htext.head, htext.last⟩
    | phrase text => exact isTight_of_enclosed rfl rfl rfl
    | operator op => cases hop
    | group children => exact isTight_of_enclosed rfl rfl rfl

theorem Expression.OperandsTight.of_cons {t : Token} {ts : Expression}
    (h : Expression.OperandsTight (t :: ts)) : Expression.OperandsTight ts :=
  fun u hu => h u (List.mem_cons_of_mem t hu)

theorem Expression.written_ne_nil {e : Expression} (htight : e.OperandsTight) (hne : e ≠ []) :
    Expression.written e ≠ [] := by
  cases e with
  | nil => exact absurd rfl hne
  | cons t ts =>
    refine List.append_ne_nil_of_left_ne_nil ?_ _
    cases hop : t.isOperator with
    | false => exact (htight t List.mem_cons_self hop).1
    | true =>
      cases t with
      | operator op => exact List.cons_ne_nil _ _
      | _ => cases hop

/-- A level that closes with an operand is written with no delimiter at its end. -/
theorem Expression.getLast?_written {e : Expression} (htight : e.OperandsTight)
    (hclose : e.closesWell = true) :
    (Expression.written e).getLast?.any isDelimiter = false := by
  induction e with
  | nil => rfl
  | cons t ts ih =>
    cases ts with
    | nil =>
      rw [Expression.written, Expression.written, List.append_nil]
      exact (htight t List.mem_cons_self (by simpa [Expression.closesWell] using hclose)).2.2
    | cons u rest =>
      have hne := Expression.written_ne_nil htight.of_cons (List.cons_ne_nil u rest)
      rw [Expression.written, List.getLast?_append_of_ne_nil _ hne]
      exact ih htight.of_cons (Expression.closesWell_tail hclose)

/-- A level that is not empty and closes with an operand is not blank when written. -/
theorem Expression.isBlank_written {e : Expression} (htight : e.OperandsTight) (hne : e ≠ [])
    (hclose : e.closesWell = true) : isBlank (Expression.written e) = false := by
  have hwritten := Expression.written_ne_nil htight hne
  have hlast := Expression.getLast?_written htight hclose
  rw [List.getLast?_eq_some_getLast hwritten] at hlast
  rw [← Bool.not_eq_true]
  intro hblank
  exact Bool.eq_false_iff.1 hlast (List.all_eq_true.1 hblank _ (List.getLast_mem hwritten))

/-- Trimming takes nothing from a level that opens with an operand. -/
theorem Expression.trim_written {t : Token} {ts : Expression}
    (htight : Expression.OperandsTight (t :: ts))
    (hclose : Expression.closesWell (t :: ts) = true) (hop : t.isOperator = false) :
    trim (Expression.written (t :: ts)) = Expression.written (t :: ts) := by
  obtain ⟨hne, hhead, -⟩ := htight t List.mem_cons_self hop
  apply trim_eq_self
  · rw [Expression.written, List.head?_append_of_ne_nil _ hne]
    exact hhead
  · exact Expression.getLast?_written htight hclose

/-- From a level that opens with an operator, trimming takes the space in front. -/
theorem Expression.cons_trim_written {op : Operator} {ts : Expression}
    (htight : Expression.OperandsTight (.operator op :: ts))
    (hclose : Expression.closesWell (.operator op :: ts) = true) :
    ' ' :: trim (Expression.written (.operator op :: ts)) =
      Expression.written (.operator op :: ts) := by
  have hlast := Expression.getLast?_written htight hclose
  have hwritten : Expression.written (.operator op :: ts) =
      ' ' :: (op.keyword.toList ++ [' '] ++ Expression.written ts) := rfl
  have hne : op.keyword.toList ++ [' '] ++ Expression.written ts ≠ [] := by simp
  rw [hwritten, List.getLast?_cons_of_ne_nil hne] at hlast
  rw [hwritten]
  congr 1
  calc trim (' ' :: (op.keyword.toList ++ [' '] ++ Expression.written ts))
      = trim (op.keyword.toList ++ [' '] ++ Expression.written ts) :=
        trim_blank_append (show isBlank [' '] = true by decide) _
    _ = op.keyword.toList ++ [' '] ++ Expression.written ts := by
        refine trim_eq_self ?_ hlast
        cases op <;> rfl

end BooleanSearch
