import BooleanSearch.Proofs.Nesting
import BooleanSearch.Proofs.Normalisation
import BooleanSearch.Proofs.RoundTrip
import BooleanSearch.Proofs.Shape

/-!
# Legible expressions

Written with single spaces, an expression can run together: a term may begin or end in a keyword,
which is then taken for an operator or makes one longer, and what stands in parentheses may close
them too early or not at all.  An expression is legible when none of this happens.

* `Expression.keywordsApart`, `Expression.opensApart` — no keyword of a term meets an operator, and
  none opens a level;
* `Expression.isLegible` — that holds at every level, and what stands in parentheses is balanced;
* `endsInKeyword_iff` — a text that ends in a keyword has a delimiter in front of it;
* `PlainText.unbroken_nil`, `PlainText.unbroken_space_iff` — plain text at the end of a level holds
  together, and in front of a space it does exactly if it does not end in a keyword.
-/

namespace BooleanSearch

/-! ## The conditions -/

/-- The text behind the last delimiter. -/
def lastWord (text : List Char) : List Char :=
  text.rtakeWhile fun c => !isDelimiter c

/-- The last of several words is one of which keywords are made. -/
def endsInKeyword (text : List Char) : Bool :=
  isKeywordWord (lastWord text) && lastWord text != text

/-- The text between the parentheses of a text that begins with one. -/
def inside? : List Char → Option (List Char)
  | '(' :: rest => some rest.dropLast
  | _ => none

/-- Keywords are kept apart from operators: no term in front of an operator ends in a keyword, and
what follows `AND` or `OR` does not begin with `NOT`. -/
def Expression.keywordsApart : Expression → Bool
  | [] => true
  | .bare text :: ts => (ts.isEmpty || !endsInKeyword text.toList) && Expression.keywordsApart ts
  | .operator op :: ts =>
    (op.isNegation || !Operator.not.leads (' ' :: Expression.written ts)) &&
      Expression.keywordsApart ts
  | .phrase _ :: ts | .group _ :: ts => Expression.keywordsApart ts

/-- A level does not begin with a keyword unless it begins with an operator. -/
def Expression.opensApart (e : Expression) : Bool :=
  e.head?.any Token.isOperator || (Operator.leading? (' ' :: Expression.written e)).isNone

/-- The conditions on one level, its texts and groups aside. -/
def Expression.levelIsLegible (e : Expression) : Bool :=
  e.opensApart && e.keywordsApart

mutual

/-- The conditions on one token: what stands in parentheses is balanced. -/
def Token.isLegible : Token → Bool
  | .bare text => (inside? text.toList).all fun inner => decide (Balanced inner)
  | .phrase _ | .operator _ => true
  | .group children =>
    decide (Balanced (trim (Expression.written children))) &&
      Expression.levelIsLegible children && Expression.tokensAreLegible children

/-- The conditions on each token of a level. -/
def Expression.tokensAreLegible : Expression → Bool
  | [] => true
  | t :: ts => t.isLegible && Expression.tokensAreLegible ts

end

/-- The conditions hold at every level. -/
def Expression.isLegible (e : Expression) : Bool :=
  Expression.levelIsLegible e && Expression.tokensAreLegible e

theorem Expression.tokensAreLegible_iff (e : Expression) :
    Expression.tokensAreLegible e = true ↔ ∀ t ∈ e, t.isLegible = true := by
  induction e with
  | nil => exact iff_of_true rfl nofun
  | cons t ts ih => rw [Expression.tokensAreLegible, Bool.and_eq_true, ih, List.forall_mem_cons]

theorem inside?_bracketed (inner : List Char) : inside? (bracketed inner) = some inner := by
  simp [inside?, bracketed]

theorem bracketed_inj {xs ys : List Char} (h : bracketed xs = bracketed ys) : xs = ys := by
  simpa [bracketed] using h

/-! ## Terms in front of an operator -/

/-- The last of several words stands behind a delimiter. -/
theorem endsInKeyword_iff (text : List Char) :
    endsInKeyword text = true ↔ ∃ front c word, isDelimiter c = true ∧ isKeywordWord word = true ∧
      text = front ++ c :: word := by
  rw [endsInKeyword, Bool.and_eq_true, bne_iff_ne]
  constructor
  · intro h
    obtain ⟨hkey, hne⟩ := h
    have hsplit : text.rdropWhile (fun c => !isDelimiter c) ++ lastWord text = text :=
      List.rdropWhile_append_rtakeWhile
    have hfront : text.rdropWhile (fun c => !isDelimiter c) ≠ [] := by
      intro hnil
      rw [hnil, List.nil_append] at hsplit
      exact hne hsplit
    have hlast := List.rdropWhile_last_not (fun c => !isDelimiter c) text hfront
    refine ⟨(text.rdropWhile fun c => !isDelimiter c).dropLast, _, lastWord text,
      by simpa using hlast, hkey, ?_⟩
    rw [← List.singleton_append, ← List.append_assoc, List.dropLast_append_getLast hfront, hsplit]
  · intro h
    obtain ⟨front, c, word, hc, hword, rfl⟩ := h
    have hall : word.reverse.all (fun x => !isDelimiter x) = true := by
      obtain rfl | rfl | rfl := (isKeywordWord_iff word).1 hword <;> decide
    have hlast : lastWord (front ++ c :: word) = word := by
      rw [lastWord, List.rtakeWhile, List.reverse_append, List.reverse_cons, List.append_assoc,
        List.takeWhile_append_of_pos (List.all_eq_true.1 hall), List.singleton_append,
        List.takeWhile_cons_of_neg (by simp [hc]), List.append_nil, List.reverse_reverse]
    rw [hlast]
    refine ⟨hword, fun heq => ?_⟩
    have hlength := congrArg List.length heq
    rw [List.length_append, List.length_cons] at hlength
    omega

/-- Text in parentheses ends in no keyword. -/
theorem endsInKeyword_bracketed (inner : List Char) : endsInKeyword (bracketed inner) = false := by
  rw [← Bool.not_eq_true, endsInKeyword_iff]
  intro h
  obtain ⟨front, c, word, -, hword, heq⟩ := h
  have hlast := congrArg List.getLast? heq
  rw [bracketed, List.getLast?_append] at hlast
  obtain rfl | rfl | rfl := (isKeywordWord_iff word).1 hword <;> simp at hlast

/-- A keyword's last word is one of which keywords are made. -/
theorem Operator.endsInKeyword (op : Operator) {c : Char} (hc : isDelimiter c = true)
    (front : List Char) : BooleanSearch.endsInKeyword (front ++ c :: op.keyword.toList) = true := by
  rw [endsInKeyword_iff]
  cases op with
  | andNot => exact ⟨front ++ c :: "AND".toList, ' ', "NOT".toList, rfl, rfl, by simp; rfl⟩
  | orNot => exact ⟨front ++ c :: "OR".toList, ' ', "NOT".toList, rfl, rfl, by simp; rfl⟩
  | and => exact ⟨front, c, "AND".toList, hc, rfl, rfl⟩
  | or => exact ⟨front, c, "OR".toList, hc, rfl, rfl⟩
  | not => exact ⟨front, c, "NOT".toList, hc, rfl, rfl⟩

/-- In front of the space in a keyword stands a word of which keywords are made. -/
theorem Operator.isKeywordWord_of_space {op : Operator} {word rest : List Char}
    (h : op.keyword.toList = word ++ ' ' :: rest) : isKeywordWord word = true := by
  have hall : ∀ i ∈ List.range op.keyword.toList.length, op.keyword.toList[i]? = some ' ' →
      isKeywordWord (op.keyword.toList.take i) = true := by
    cases op <;> decide
  have hword := hall word.length (by simp [h]) (by simp [h])
  rwa [h, List.take_left] at hword

/-- No operator begins in plain text that ends its level. -/
theorem PlainText.unbroken_nil {text : List Char} (h : PlainText text) :
    Unbroken text.reverse [] := by
  intro front c back heq
  rw [List.reverse_reverse] at heq
  rw [List.append_nil, Option.eq_none_iff_forall_ne_some]
  intro op hop
  obtain ⟨c', d, rest, hc, hd, hlead⟩ := Operator.leading?_eq_some hop
  refine h.no_operator op c' d hc hd ⟨front, rest, ?_⟩
  rw [heq, hlead]
  simp

/-- In front of a space, an operator begins in plain text exactly if it ends in a keyword. -/
theorem PlainText.unbroken_space_iff {text : List Char} (h : PlainText text) (rest : List Char) :
    Unbroken text.reverse (' ' :: rest) ↔ endsInKeyword text = false := by
  constructor
  · intro hunbroken
    rw [← Bool.not_eq_true]
    intro hends
    obtain ⟨front, c, word, hc, hword, rfl⟩ := (endsInKeyword_iff text).1 hends
    obtain ⟨op, rfl⟩ : ∃ op : Operator, word = op.keyword.toList := by
      obtain rfl | rfl | rfl := (isKeywordWord_iff word).1 hword
      · exact ⟨.and, rfl⟩
      · exact ⟨.or, rfl⟩
      · exact ⟨.not, rfl⟩
    have hnone := hunbroken front c op.keyword.toList (List.reverse_reverse _)
    have hfalse := (Operator.leading?_eq_none_iff _).1 hnone op
    rw [(op.leads_iff _).2 ⟨c, ' ', rest, hc, rfl, rfl⟩] at hfalse
    cases hfalse
  · intro hends front c back heq
    rw [List.reverse_reverse] at heq
    rw [Option.eq_none_iff_forall_ne_some]
    intro op hop
    obtain ⟨c', d, tail, hc, hd, hlead⟩ := Operator.leading?_eq_some hop
    obtain ⟨rfl, hbehind⟩ := List.cons.inj hlead
    -- the keyword ends in the text, at its end or behind it
    suffices hkey : endsInKeyword text = true by
      rw [hkey] at hends
      cases hends
    obtain ⟨a, hkeyword, ha⟩ | ⟨a, hback, ha⟩ := List.append_eq_append_iff.1 hbehind
    · cases a with
      | nil =>
        rw [List.append_nil] at hkeyword
        rw [heq, ← hkeyword]
        exact op.endsInKeyword hc front
      | cons x a =>
        obtain ⟨rfl, -⟩ := List.cons.inj ha
        rw [heq]
        exact (endsInKeyword_iff _).2
          ⟨front, c, back, hc, Operator.isKeywordWord_of_space hkeyword, rfl⟩
    · cases a with
      | nil =>
        rw [List.append_nil] at hback
        rw [heq, hback]
        exact op.endsInKeyword hc front
      | cons x a =>
        obtain ⟨rfl, -⟩ := List.cons.inj ha
        refine absurd ⟨front, a, ?_⟩ (h.no_operator op c d hc hd)
        rw [heq, hback]
        simp

end BooleanSearch
