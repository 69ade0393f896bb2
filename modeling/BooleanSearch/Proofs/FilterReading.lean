import Mathlib.Data.List.Basic
import BooleanSearch.Query
import BooleanSearch.Proofs.Literal

/-!
# Reading a composed filter

A data store reads a filter from left to right as code with string literals in it.  The literals
of a composed filter are the patterns of the query's terms, and the code around them does not
depend on the terms: nothing that a user types is read as code.

* `Dialect.lexemes` — a filter as code and literals;
* `ReadsAs` — text that reads as given lexemes whatever follows it, as long as that is no quote;
  code without quotes and quoted literals do, and joining keeps it;
* `Expression.lexemes` — the lexemes of an expression, for given lexemes of its terms;
* `Expression.readsAs_compose` — a composed filter reads as those, by induction over the tree;
* `like_literals` — the statement for search texts.
-/

namespace BooleanSearch

/-! ## Filters as code and literals -/

/-- A part of a filter as a data store reads it. -/
inductive FilterLexeme where
  /-- A character outside all literals. -/
  | code (c : Char)
  /-- A literal, by the text that it stands for. -/
  | literal (text : String)
  deriving DecidableEq, Repr

/-- The lexemes of a filter, unless a literal in it is not closed. -/
def Dialect.lexemes (dialect : Dialect) : List Char → Option (List FilterLexeme)
  | [] => some []
  | c :: rest =>
    if c = '\'' then
      match _h : dialect.readLiteral rest with
      | none => none
      | some (literal, behind) =>
        (dialect.lexemes behind).map (.literal (String.ofList literal) :: ·)
    else (dialect.lexemes rest).map (.code c :: ·)
termination_by text => text.length
decreasing_by
  · exact Nat.lt_succ_of_lt (Dialect.readLiteral_length ‹_›)
  · exact Nat.lt_succ_self _

/-- The text of a lexeme, if it is a literal. -/
def FilterLexeme.literal? : FilterLexeme → Option String
  | .literal text => some text
  | .code _ => none

/-- The characters of a lexeme, with `mark` in place of a literal. -/
def FilterLexeme.masked (mark : String) : FilterLexeme → List Char
  | .code c => [c]
  | .literal _ => mark.toList

/-- The texts of the literals, in order. -/
def literalTexts (ls : List FilterLexeme) : List String :=
  ls.filterMap FilterLexeme.literal?

/-- The filter with `mark` in place of each literal. -/
def maskLiterals (mark : String) (ls : List FilterLexeme) : String :=
  String.ofList (ls.flatMap (FilterLexeme.masked mark))

theorem literalTexts_append (xs ys : List FilterLexeme) :
    literalTexts (xs ++ ys) = literalTexts xs ++ literalTexts ys :=
  List.filterMap_append ..

theorem maskLiterals_append (mark : String) (xs ys : List FilterLexeme) :
    maskLiterals mark (xs ++ ys) = maskLiterals mark xs ++ maskLiterals mark ys := by
  rw [maskLiterals, List.flatMap_append, String.ofList_append]
  rfl

/-- Code that stands outside all literals. -/
def codeLexemes (text : String) : List FilterLexeme :=
  text.toList.map .code

theorem literalTexts_code (text : String) : literalTexts (codeLexemes text) = [] := by
  rw [literalTexts, codeLexemes, List.filterMap_map, List.filterMap_eq_nil_iff]
  exact fun _ _ => rfl

theorem maskLiterals_code (mark text : String) : maskLiterals mark (codeLexemes text) = text := by
  rw [maskLiterals, codeLexemes, List.flatMap_map]
  exact (congrArg String.ofList (List.flatMap_singleton' _)).trans String.ofList_toList

/-! ## Steps of reading -/

theorem Dialect.lexemes_code {dialect : Dialect} {c : Char} (h : c ≠ '\'') (rest : List Char) :
    dialect.lexemes (c :: rest) = (dialect.lexemes rest).map (.code c :: ·) := by
  rw [Dialect.lexemes, if_neg h]

theorem Dialect.lexemes_literal {dialect : Dialect} {rest literal behind : List Char}
    (h : dialect.readLiteral rest = some (literal, behind)) :
    dialect.lexemes ('\'' :: rest) =
      (dialect.lexemes behind).map (.literal (String.ofList literal) :: ·) := by
  rw [Dialect.lexemes, if_pos rfl]
  split
  · rename_i hnone
    rw [h] at hnone
    cases hnone
  · rename_i hsome
    rw [h] at hsome
    cases hsome
    rfl

/-- The text reads as the lexemes whatever follows, as long as that is no quote; and no quote
stands in front of it. -/
def ReadsAs (dialect : Dialect) (text : String) (ls : List FilterLexeme) : Prop :=
  ∀ rest : List Char, rest.head? ≠ some '\'' →
    (text.toList ++ rest).head? ≠ some '\'' ∧
      dialect.lexemes (text.toList ++ rest) = (dialect.lexemes rest).map (ls ++ ·)

theorem ReadsAs.empty (dialect : Dialect) : ReadsAs dialect "" [] := by
  intro rest hrest
  refine ⟨hrest, ?_⟩
  simp

theorem ReadsAs.append {dialect : Dialect} {text text' : String} {ls ls' : List FilterLexeme}
    (h : ReadsAs dialect text ls) (h' : ReadsAs dialect text' ls') :
    ReadsAs dialect (text ++ text') (ls ++ ls') := by
  intro rest hrest
  obtain ⟨hhead', hread'⟩ := h' rest hrest
  obtain ⟨hhead, hread⟩ := h (text'.toList ++ rest) hhead'
  rw [String.toList_append, List.append_assoc]
  refine ⟨hhead, ?_⟩
  rw [hread, hread', Option.map_map]
  simp [Function.comp_def]

/-- With nothing behind it, the text has the lexemes. -/
theorem ReadsAs.lexemes_eq {dialect : Dialect} {text : String} {ls : List FilterLexeme}
    (h : ReadsAs dialect text ls) : dialect.lexemes text.toList = some ls := by
  obtain ⟨-, hread⟩ := h [] nofun
  rw [List.append_nil, Dialect.lexemes, Option.map_some, List.append_nil] at hread
  exact hread

theorem Dialect.lexemes_codes {dialect : Dialect} {text : List Char} (h : '\'' ∉ text)
    (rest : List Char) :
    dialect.lexemes (text ++ rest) = (dialect.lexemes rest).map (text.map .code ++ ·) := by
  induction text with
  | nil => simp
  | cons c text ih =>
    obtain ⟨hc, htext⟩ : '\'' ≠ c ∧ '\'' ∉ text := by simpa using h
    rw [List.cons_append, Dialect.lexemes_code (Ne.symm hc), ih htext, Option.map_map]
    rfl

/-- Text without quotes puts no quote in front, unless it is empty and one follows. -/
theorem head?_append_ne_quote {text rest : List Char} (h : '\'' ∉ text)
    (hrest : text = [] → rest.head? ≠ some '\'') : (text ++ rest).head? ≠ some '\'' := by
  cases text with
  | nil => exact hrest rfl
  | cons c text =>
    intro hquote
    obtain rfl : c = '\'' := Option.some.inj hquote
    exact h List.mem_cons_self

/-- Text without quotes reads as code. -/
theorem ReadsAs.code {dialect : Dialect} {text : String} (h : '\'' ∉ text.toList) :
    ReadsAs dialect text (codeLexemes text) := by
  intro rest hrest
  exact ⟨head?_append_ne_quote h fun _ => hrest, Dialect.lexemes_codes h rest⟩

/-- A quoted literal behind code reads as itself. -/
theorem ReadsAs.quoted {dialect : Dialect} {text literal quoted : String}
    (htext : '\'' ∉ text.toList) (hne : text.toList ≠ [])
    (h : dialect.quoter.quote literal = .ok quoted) :
    ReadsAs dialect (text ++ quoted) (codeLexemes text ++ [.literal literal]) := by
  intro rest hrest
  have hquoted : quoted.toList ++ rest =
      '\'' :: (literal.toList.flatMap dialect.escape ++ '\'' :: rest) := by
    rw [Dialect.quote_eq_ok h, List.cons_append, List.append_assoc, List.singleton_append]
  have hread : dialect.lexemes (quoted.toList ++ rest) =
      (dialect.lexemes rest).map (.literal literal :: ·) := by
    rw [hquoted, Dialect.lexemes_literal (dialect.readLiteral_escaped hrest literal.toList),
      String.ofList_toList]
  rw [String.toList_append, List.append_assoc]
  refine ⟨head?_append_ne_quote htext fun h => absurd h hne, ?_⟩
  rw [Dialect.lexemes_codes htext, hread, Option.map_map]
  simp [Function.comp_def, codeLexemes]

/-! ## Composed filters -/

section Composed

variable (fragment : Term → List FilterLexeme)

mutual

/-- The lexemes of a token, with `fragment` for its terms. -/
def Token.lexemes : Token → List FilterLexeme
  | .bare text => fragment ⟨text, false⟩
  | .phrase text => fragment ⟨text, true⟩
  | .operator op => codeLexemes (" " ++ op.keyword ++ " ")
  | .group children => codeLexemes "(" ++ Expression.lexemes children ++ codeLexemes ")"

/-- The lexemes of an expression, with `fragment` for its terms. -/
def Expression.lexemes : Expression → List FilterLexeme
  | [] => []
  | t :: ts => t.lexemes ++ Expression.lexemes ts

end

variable {fragment} {dialect : Dialect} {f : Formatter}

mutual

theorem Token.readsAs_compose
    (hf : ∀ term text, f term = .ok text → ReadsAs dialect text (fragment term)) (t : Token)
    {text : String} (h : t.compose f = .ok text) : ReadsAs dialect text (t.lexemes fragment) := by
  cases t with
  | bare text => exact hf _ _ h
  | phrase text => exact hf _ _ h
  | operator op =>
    obtain rfl := Except.ok.inj h
    exact ReadsAs.code (by cases op <;> decide)
  | group children =>
    obtain ⟨inner, hinner, rfl⟩ := Token.compose_group_eq_ok_iff.1 h
    exact ((ReadsAs.code (by decide)).append (Expression.readsAs_compose hf children hinner)).append
      (ReadsAs.code (by decide))

/-- **A composed filter reads as its fragments**, with the operators and parentheses between them
as code. -/
theorem Expression.readsAs_compose
    (hf : ∀ term text, f term = .ok text → ReadsAs dialect text (fragment term)) (e : Expression)
    {text : String} (h : Expression.compose f e = .ok text) :
    ReadsAs dialect text (Expression.lexemes fragment e) := by
  cases e with
  | nil =>
    obtain rfl := Except.ok.inj h
    exact ReadsAs.empty dialect
  | cons t ts =>
    obtain ⟨first, hfirst, rest, hrest, rfl⟩ := Expression.compose_cons_eq_ok_iff.1 h
    exact (Token.readsAs_compose hf t hfirst).append (Expression.readsAs_compose hf ts hrest)

end

mutual

theorem Token.literalTexts_lexemes {pattern : Term → String}
    (hfragment : ∀ term, literalTexts (fragment term) = [pattern term]) (t : Token) :
    literalTexts (t.lexemes fragment) = t.terms.map pattern := by
  cases t with
  | bare text => exact hfragment _
  | phrase text => exact hfragment _
  | operator op => exact literalTexts_code _
  | group children =>
    rw [Token.lexemes, literalTexts_append, literalTexts_append, literalTexts_code,
      literalTexts_code, Expression.literalTexts_lexemes hfragment children, Token.terms]
    exact List.append_nil _

/-- The literals of a filter are those of its terms, in reading order. -/
theorem Expression.literalTexts_lexemes {pattern : Term → String}
    (hfragment : ∀ term, literalTexts (fragment term) = [pattern term]) (e : Expression) :
    literalTexts (Expression.lexemes fragment e) = e.terms.map pattern := by
  cases e with
  | nil => rfl
  | cons t ts =>
    rw [Expression.lexemes, literalTexts_append, Token.literalTexts_lexemes hfragment t,
      Expression.literalTexts_lexemes hfragment ts, Expression.terms, List.map_append]

end

mutual

theorem Token.compose_masked {mark masked : String}
    (hfragment : ∀ term, maskLiterals mark (fragment term) = masked) (t : Token) :
    t.compose (fun _ => .ok masked) = .ok (maskLiterals mark (t.lexemes fragment)) := by
  cases t with
  | bare text => exact congrArg Except.ok (hfragment _).symm
  | phrase text => exact congrArg Except.ok (hfragment _).symm
  | operator op => exact congrArg Except.ok (maskLiterals_code ..).symm
  | group children =>
    refine Token.compose_group_eq_ok_iff.2 ⟨_, Expression.compose_masked hfragment children, ?_⟩
    rw [Token.lexemes, maskLiterals_append, maskLiterals_append, maskLiterals_code,
      maskLiterals_code]

/-- With a mark in place of each literal, the filter is the one composed from marks alone. -/
theorem Expression.compose_masked {mark masked : String}
    (hfragment : ∀ term, maskLiterals mark (fragment term) = masked) (e : Expression) :
    Expression.compose (fun _ => .ok masked) e =
      .ok (maskLiterals mark (Expression.lexemes fragment e)) := by
  cases e with
  | nil => rfl
  | cons t ts =>
    refine Expression.compose_cons_eq_ok_iff.2 ⟨_, Token.compose_masked hfragment t, _,
      Expression.compose_masked hfragment ts, ?_⟩
    rw [Expression.lexemes, maskLiterals_append]

end

end Composed

/-! ## LIKE filters over a column -/

/-- The lexemes of a `LIKE` fragment: the column as code and the pattern as a literal. -/
def likeLexemes (column : String) (term : Term) : List FilterLexeme :=
  codeLexemes (column ++ " LIKE ") ++ [.literal (likePattern term.text)]

theorem literalTexts_likeLexemes (column : String) (term : Term) :
    literalTexts (likeLexemes column term) = [likePattern term.text] := by
  rw [likeLexemes, literalTexts_append, literalTexts_code]
  rfl

theorem maskLiterals_likeLexemes (mark column : String) (term : Term) :
    maskLiterals mark (likeLexemes column term) = column ++ " LIKE " ++ mark := by
  have hmark : maskLiterals mark [.literal (likePattern term.text)] = mark := by
    rw [maskLiterals, List.flatMap_singleton]
    exact String.ofList_toList
  rw [likeLexemes, maskLiterals_append, maskLiterals_code, hmark]

/-- A fragment over a column without quotes reads as its column and its pattern. -/
theorem readsAs_like {dialect : Dialect} {column : String} (hcolumn : '\'' ∉ column.toList)
    (term : Term) (text : String)
    (h : LikeFormatter.format { source := .column column, quoter := dialect.quoter } term =
      .ok text) : ReadsAs dialect text (likeLexemes column term) := by
  obtain ⟨quoted, hquoted, heq⟩ := bind_eq_ok_iff.1 h
  obtain rfl := Except.ok.inj heq
  refine ReadsAs.quoted ?_ ?_ hquoted
  · rw [String.toList_append, List.mem_append, not_or]
    exact ⟨hcolumn, by decide⟩
  · simp

/-- **What a user types stays inside its literal.**  A filter over a column without quotes reads
as one literal for each term of the query, which stands for the pattern of that term; and with a
mark in place of each literal it is the filter composed from that mark for every term. -/
theorem like_literals {dialect : Dialect} {column text filter : String}
    (hcolumn : '\'' ∉ column.toList)
    (h : composeText (LikeFormatter.format
      { source := .column column, quoter := dialect.quoter }) text = .ok filter) :
    ∃ ls, dialect.lexemes filter.toList = some ls ∧
      literalTexts ls =
        (Query.parse .default text).terms.map (fun term => "%" ++ term.text ++ "%") ∧
      ∀ mark : String, composeText (fun _ => .ok (column ++ " LIKE " ++ mark)) text =
        .ok (maskLiterals mark ls) := by
  have hread := Expression.readsAs_compose (readsAs_like hcolumn) _ h
  refine ⟨_, hread.lexemes_eq, ?_, fun mark => ?_⟩
  · exact Expression.literalTexts_lexemes (literalTexts_likeLexemes column) _
  · exact Expression.compose_masked (maskLiterals_likeLexemes mark column) _

/-- A term that ends in a backslash and a quote, behind which an operator stands. -/
theorem like_literals_backslash :
    '\'' ∉ "c".toList ∧
      composeText (LikeFormatter.format { source := .column "c", quoter := Dialect.mysql.quoter })
        "\\' OR b" = .ok "c LIKE '%\\\\\\'%' OR c LIKE '%b%'" ∧
      ∃ ls, Dialect.mysql.lexemes "c LIKE '%\\\\\\'%' OR c LIKE '%b%'".toList = some ls ∧
        literalTexts ls = ["%\\'%", "%b%"] := by
  have h : composeText (LikeFormatter.format
      { source := .column "c", quoter := Dialect.mysql.quoter }) "\\' OR b" =
        .ok "c LIKE '%\\\\\\'%' OR c LIKE '%b%'" := by cbv
  obtain ⟨ls, hread, htexts, -⟩ := like_literals (by decide) h
  exact ⟨by decide, h, ls, hread, htexts.trans (by cbv)⟩

end BooleanSearch
