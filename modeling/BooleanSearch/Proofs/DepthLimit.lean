import BooleanSearch.Tokenizer

/-!
# What the depth limit changes

A higher depth limit changes nothing above the old one.  Two readings of one text are compared
without what stands in parentheses at the lower limit, and without the groups that are empty then:
a group whose inside reads to nothing vanishes where there is room for it and is kept as text where
there is none.

* `Expression.pruned` — an expression without the groups at a level, kept or expanded;
* `pruned_flatMap_tokens` — two readings of a level agree where their groups do;
* `pruned_scan` — readings with different room agree after pruning at the smaller one;
* `scan_eq_scan` — they agree entirely where nothing was kept as text;
* `pruned_tokenize` — both statements for readers with their limits.
-/

namespace BooleanSearch

/-! ## Pruning -/

/-- Does a bare term begin with a parenthesis? -/
def Term.isKept (term : Term) : Bool :=
  !term.exact && term.text.toList.head? == some '('

/-- A group, or a bare term that begins with a parenthesis. -/
def Token.isParenthesised : Token → Bool
  | .group _ => true
  | .bare text => (Term.mk text false).isKept
  | _ => false

mutual

/-- The token without the parenthesised ones that stand `level` levels below it; a group left empty
vanishes. -/
def Token.pruned : (level : Nat) → Token → Expression
  | 0, t => if t.isParenthesised then [] else [t]
  | level + 1, .group children => (Expression.pruned level children).asGroup
  | _ + 1, t => [t]

/-- The expression without its parenthesised tokens at a level, and without the groups that are
empty then, from the inside out. -/
def Expression.pruned (level : Nat) : Expression → Expression
  | [] => []
  | t :: ts => t.pruned level ++ Expression.pruned level ts

end

theorem Expression.pruned_append (level : Nat) (e e' : Expression) :
    Expression.pruned level (e ++ e') =
      Expression.pruned level e ++ Expression.pruned level e' := by
  induction e with
  | nil => rfl
  | cons t ts ih =>
    rw [List.cons_append, Expression.pruned, ih, Expression.pruned, List.append_assoc]

/-- At the level itself groups are deleted. -/
theorem Expression.pruned_zero_asGroup (e : Expression) : Expression.pruned 0 e.asGroup = [] := by
  cases e <;> rfl

/-- Above the level groups are pruned inside. -/
theorem Expression.pruned_succ_asGroup (level : Nat) (e : Expression) :
    Expression.pruned (level + 1) e.asGroup = (Expression.pruned level e).asGroup := by
  cases e with
  | nil => rfl
  | cons t ts => exact List.append_nil _

/-- At the level itself kept groups are deleted. -/
theorem Expression.pruned_zero_bracketed (inner : List Char) :
    Expression.pruned 0 [.bare (String.ofList (bracketed inner))] = [] := by
  have hkept : (Token.bare (String.ofList (bracketed inner))).isParenthesised = true := by
    rw [Token.isParenthesised, Term.isKept, String.toList_ofList]
    rfl
  rw [Expression.pruned, Token.pruned, hkept]
  rfl

/-! ## Two readings of a text -/

/-- **Two readings of a level agree** after pruning if their readings of groups do. -/
theorem pruned_flatMap_tokens {level : Nat} {group group' : List Char → Expression}
    (h : ∀ inner, Expression.pruned level (group inner) = Expression.pruned level (group' inner))
    (ps : List Piece) :
    Expression.pruned level (ps.flatMap (Piece.tokens group)) =
      Expression.pruned level (ps.flatMap (Piece.tokens group')) := by
  induction ps with
  | nil => rfl
  | cons p ps ih =>
    have hpiece : Expression.pruned level (p.tokens group) =
        Expression.pruned level (p.tokens group') := by
      cases p with
      | group text =>
        rw [Piece.tokens, Piece.tokens]
        split
        · rfl
        · exact h (trim text)
      | _ => rfl
    rw [List.flatMap_cons, List.flatMap_cons, Expression.pruned_append, Expression.pruned_append,
      hpiece, ih]

/-- **More room changes nothing above the old limit**, by induction on the smaller room. -/
theorem pruned_scan {room room' : Nat} (h : room ≤ room') (text : List Char) :
    Expression.pruned room (scan room text) = Expression.pruned room (scan room' text) := by
  induction room generalizing room' text with
  | zero =>
    cases room' with
    | zero => rfl
    | succ room' =>
      refine pruned_flatMap_tokens (fun inner => ?_) (pieces text)
      rw [Expression.pruned_zero_bracketed, Expression.pruned_zero_asGroup]
  | succ room ih =>
    cases room' with
    | zero => exact absurd h (Nat.not_succ_le_zero room)
    | succ room' =>
      refine pruned_flatMap_tokens (fun inner => ?_) (pieces text)
      rw [Expression.pruned_succ_asGroup, Expression.pruned_succ_asGroup,
        ih (Nat.le_of_succ_le_succ h)]

/-! ## Readings that keep no group as text -/

/-- A kept group is a term that begins with a parenthesis. -/
theorem any_isKept_bracketed (inner : List Char) :
    (Expression.terms [.bare (String.ofList (bracketed inner))]).any Term.isKept = true := by
  rw [Expression.terms, Token.terms, Expression.terms, List.append_nil, List.any_cons, Term.isKept,
    String.toList_ofList]
  rfl

/-- Two readings of a level are equal if their readings of groups are wherever the first one keeps
nothing as text. -/
theorem flatMap_tokens_congr {group group' : List Char → Expression}
    (h : ∀ inner, (Expression.terms (group inner)).any Term.isKept = false →
      group inner = group' inner)
    {ps : List Piece}
    (hps : (Expression.terms (ps.flatMap (Piece.tokens group))).any Term.isKept = false) :
    ps.flatMap (Piece.tokens group) = ps.flatMap (Piece.tokens group') := by
  induction ps with
  | nil => rfl
  | cons p ps ih =>
    rw [List.flatMap_cons, Expression.terms_append, List.any_append, Bool.or_eq_false_iff] at hps
    have hpiece : p.tokens group = p.tokens group' := by
      cases p with
      | group text =>
        have hgroup := hps.1
        rw [Piece.tokens] at hgroup
        rw [Piece.tokens, Piece.tokens]
        split
        · rfl
        · rename_i hblank
          rw [if_neg hblank] at hgroup
          exact h (trim text) hgroup
      | _ => rfl
    rw [List.flatMap_cons, List.flatMap_cons, hpiece, ih hps.2]

/-- **Where nothing is kept as text, more room changes nothing.** -/
theorem scan_eq_scan {room room' : Nat} (h : room ≤ room') {text : List Char}
    (hkept : (Expression.terms (scan room text)).any Term.isKept = false) :
    scan room text = scan room' text := by
  induction room generalizing room' text with
  | zero =>
    cases room' with
    | zero => rfl
    | succ room' =>
      refine flatMap_tokens_congr (fun inner hinner => ?_) hkept
      rw [any_isKept_bracketed] at hinner
      cases hinner
  | succ room ih =>
    cases room' with
    | zero => exact absurd h (Nat.not_succ_le_zero room)
    | succ room' =>
      refine flatMap_tokens_congr (fun inner hinner => ?_) hkept
      rw [Expression.terms_asGroup] at hinner
      rw [ih (Nat.le_of_succ_le_succ h) hinner]

/-- **Raising the depth limit** changes nothing above the old limit: without what stands in
parentheses at that level the two readings are equal, and they are equal as they are if the lower
limit keeps no group as text. -/
theorem pruned_tokenize {d d' : Nat} (h : d ≤ d') (hd' : d' ≤ 256) (text : String) :
    Expression.pruned d ((Tokenizer.ofMaxDepth d).tokenize text) =
        Expression.pruned d ((Tokenizer.ofMaxDepth d').tokenize text) ∧
      ((∀ term ∈ ((Tokenizer.ofMaxDepth d).tokenize text).terms, term.exact = false →
          term.text.toList.head? ≠ some '(') →
        (Tokenizer.ofMaxDepth d).tokenize text = (Tokenizer.ofMaxDepth d').tokenize text) := by
  have hlimit : (Tokenizer.ofMaxDepth d).maxDepth = d := Nat.min_eq_left (Nat.le_trans h hd')
  have hlimit' : (Tokenizer.ofMaxDepth d').maxDepth = d' := Nat.min_eq_left hd'
  rw [Tokenizer.tokenize, Tokenizer.tokenize, hlimit, hlimit']
  refine ⟨pruned_scan h text.toList, fun hkept => scan_eq_scan h ?_⟩
  refine List.any_eq_false.2 fun term hterm => ?_
  simpa [Term.isKept] using hkept term hterm

/-- A blank group below the old limit is kept there and vanishes with more room, and the group
around it with it.  Where only a phrase begins with a parenthesis, nothing is kept. -/
theorem pruned_tokenize_vanishing :
    1 ≤ 2 ∧ 2 ≤ 256 ∧
      (Tokenizer.ofMaxDepth 1).tokenize "a OR ((\"\")) AND (b (c))" =
        [.bare "a", .operator .or, .group [.bare "(\"\")"], .operator .and,
          .group [.bare "b", .bare "(c)"]] ∧
      (Tokenizer.ofMaxDepth 2).tokenize "a OR ((\"\")) AND (b (c))" =
        [.bare "a", .operator .or, .operator .and, .group [.bare "b", .group [.bare "c"]]] ∧
      Expression.pruned 1 ((Tokenizer.ofMaxDepth 1).tokenize "a OR ((\"\")) AND (b (c))") =
        Expression.pruned 1 ((Tokenizer.ofMaxDepth 2).tokenize "a OR ((\"\")) AND (b (c))") ∧
      (∀ term ∈ ((Tokenizer.ofMaxDepth 1).tokenize "\"(a\" OR (b \"(c\")").terms,
        term.exact = false → term.text.toList.head? ≠ some '(') ∧
      (Tokenizer.ofMaxDepth 1).tokenize "\"(a\" OR (b \"(c\")" =
        (Tokenizer.ofMaxDepth 256).tokenize "\"(a\" OR (b \"(c\")" := by
  have hkept : ∀ term ∈ ((Tokenizer.ofMaxDepth 1).tokenize "\"(a\" OR (b \"(c\")").terms,
      term.exact = false → term.text.toList.head? ≠ some '(' := by decide +kernel
  refine ⟨by decide, by decide, by decide +kernel, by decide +kernel, ?_, hkept, ?_⟩
  · exact (pruned_tokenize (by decide) (by decide) _).1
  · exact (pruned_tokenize (by decide) (by decide) _).2 hkept

end BooleanSearch
