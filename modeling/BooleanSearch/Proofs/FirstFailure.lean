import BooleanSearch.Proofs.Grammar
import BooleanSearch.Query

/-!
# The first term without a fragment

Composing asks the formatter for one fragment after another and stops at the first failure, however
deep in the groups it comes.  Here that is said of the flat list of terms: which terms are asked
for, what the failure is, and what is composed if there is none.

* `Expression.composeM_induction` — what holds of fragments and of one computation after another
  holds of composing, by induction over the tree;
* `Formatter.firstFailing?`, `Formatter.outcome`, `Formatter.asked` — the first term without a
  fragment, what comes of the terms, and the terms up to and including that one;
* `Expression.compose_eq_outcome` — composing gives what comes of the terms in reading order;
* `Noting`, `Formatter.noting`, `Expression.run_composeM_noting` — a formatter that notes what it is
  asked for, and the notes that composing leaves;
* `Expression.compose_ansi`, `Expression.compose_mysql` — the failures of `LIKE` filters in the two
  dialects;
* `compose_first_failure` — the whole statement.
-/

namespace BooleanSearch

/-! ## Composing in any monad -/

section InAnyMonad

variable {m : Type → Type} [Monad m] {f : Term → m String} {fragment : Term → String}
  {P : m String → List Term → String → Prop}

/-- `P` relates a computation to the terms that it needs and to the text that it gives.  It holds of
texts, of fragments and of one computation after another. -/
structure ComposeInvariant (f : Term → m String) (fragment : Term → String)
    (P : m String → List Term → String → Prop) : Prop where
  text : ∀ text, P (pure text) [] text
  term : ∀ term, P (f term) [term] (fragment term)
  bind : ∀ {x : m String} {next : String → m String} {xs ys : List Term} {text text' : String},
    P x xs text → P (next text) ys text' → P (x >>= next) (xs ++ ys) text'

/-- Text put around what a computation gives needs no further term. -/
theorem ComposeInvariant.wrap (h : ComposeInvariant f fragment P) {x : m String} {xs : List Term}
    {text : String} (hx : P x xs text) (around : String → String) :
    P (x >>= fun inner => pure (around inner)) xs (around text) := by
  have hwrapped : P (x >>= fun inner => pure (around inner)) (xs ++ []) (around text) :=
    h.bind hx (h.text _)
  rw [List.append_nil] at hwrapped
  exact hwrapped

mutual

theorem Token.composeM_induction (h : ComposeInvariant f fragment P) (t : Token) :
    P (t.composeM f) t.terms (t.rendered fragment) := by
  cases t with
  | bare text => exact h.term _
  | phrase text => exact h.term _
  | operator op => exact h.text _
  | group children =>
    exact h.wrap (Expression.composeM_induction h children) fun inner => "(" ++ inner ++ ")"

/-- **One induction for every monad**: what holds of texts, of fragments and of one computation
after another holds of composing an expression, with the terms in reading order. -/
theorem Expression.composeM_induction (h : ComposeInvariant f fragment P) (e : Expression) :
    P (Expression.composeM f e) (Expression.terms e) (Expression.rendered fragment e) := by
  cases e with
  | nil => exact h.text _
  | cons t ts =>
    exact h.bind (Token.composeM_induction h t)
      (h.wrap (Expression.composeM_induction h ts) fun rest => t.rendered fragment ++ rest)

end

end InAnyMonad

/-! ## What comes of the terms -/

/-- Does a term have a fragment? -/
def Formatter.succeeds (f : Formatter) (term : Term) : Bool :=
  (f term).isOk

/-- The first term that has no fragment. -/
def Formatter.firstFailing? (f : Formatter) (terms : List Term) : Option Term :=
  terms.find? fun term => !f.succeeds term

/-- The failure of the first term that has no fragment, or else the filter. -/
def Formatter.outcome (f : Formatter) (terms : List Term) (filter : String) :
    Except FormatError String :=
  match f.firstFailing? terms with
  | some term => f term
  | none => .ok filter

/-- The terms in front of the first one that has no fragment, and that one. -/
def Formatter.asked (f : Formatter) (terms : List Term) : List Term :=
  terms.takeWhile f.succeeds ++ (f.firstFailing? terms).toList

section Failing

variable {f : Formatter} {xs : List Term}

theorem Formatter.outcome_of_none (h : f.firstFailing? xs = none) (filter : String) :
    f.outcome xs filter = .ok filter := by
  rw [Formatter.outcome, h]

theorem Formatter.outcome_of_some {term : Term} (h : f.firstFailing? xs = some term)
    (filter : String) : f.outcome xs filter = f term := by
  rw [Formatter.outcome, h]

theorem Formatter.succeeds_iff {term : Term} :
    f.succeeds term = true ↔ ∃ text, f term = .ok text := by
  cases hterm : f term <;> simp [Formatter.succeeds, hterm, Except.isOk, Except.toBool]

/-- The first failing term fails. -/
theorem Formatter.eq_error_of_firstFailing? {term : Term} (h : f.firstFailing? xs = some term) :
    ∃ failure, f term = .error failure := by
  have hfails := List.find?_some h
  cases hterm : f term with
  | ok text => simp [Formatter.succeeds_iff.2 ⟨text, hterm⟩] at hfails
  | error failure => exact ⟨failure, rfl⟩

/-- Where no term fails, the search goes on behind them. -/
theorem Formatter.firstFailing?_append_of_none (h : f.firstFailing? xs = none) (ys : List Term) :
    f.firstFailing? (xs ++ ys) = f.firstFailing? ys := by
  rw [Formatter.firstFailing?] at h
  rw [Formatter.firstFailing?, List.find?_append, h, Option.none_or]
  rfl

/-- Where one fails, nothing behind it is looked at. -/
theorem Formatter.firstFailing?_append_of_some {term : Term} (h : f.firstFailing? xs = some term)
    (ys : List Term) : f.firstFailing? (xs ++ ys) = some term := by
  rw [Formatter.firstFailing?] at h
  rw [Formatter.firstFailing?, List.find?_append, h, Option.some_or]

theorem Formatter.asked_append_of_none (h : f.firstFailing? xs = none) (ys : List Term) :
    f.asked (xs ++ ys) = f.asked xs ++ f.asked ys := by
  have hall : ∀ term ∈ xs, f.succeeds term = true := by
    simpa using List.find?_eq_none.1 h
  have hfront : xs.takeWhile f.succeeds = xs := List.takeWhile_eq_self_iff.2 hall
  rw [Formatter.asked, Formatter.asked, Formatter.asked, Formatter.firstFailing?_append_of_none h,
    List.takeWhile_append_of_pos hall, h, hfront, Option.toList_none, List.append_nil,
    List.append_assoc]

theorem Formatter.asked_append_of_some {term : Term} (h : f.firstFailing? xs = some term)
    (ys : List Term) : f.asked (xs ++ ys) = f.asked xs := by
  obtain ⟨hfails, front, back, rfl, hfront⟩ := List.find?_eq_some_iff_append.1 h
  have hall : ∀ other ∈ front, f.succeeds other = true := by simpa using hfront
  have hstop : ¬f.succeeds term = true := by simpa using hfails
  have htake : ∀ rest : List Term, (front ++ term :: rest).takeWhile f.succeeds = front := by
    intro rest
    rw [List.takeWhile_append_of_pos hall, List.takeWhile_cons_of_neg hstop, List.append_nil]
  rw [Formatter.asked, Formatter.asked, Formatter.firstFailing?_append_of_some h, h,
    List.append_assoc, List.cons_append, htake, htake]

end Failing

/-! ## Composing with a formatter -/

/-- One computation after another: what comes of the terms of both. -/
theorem Formatter.bind_outcome {f : Formatter} {x : Except FormatError String}
    {next : String → Except FormatError String} {xs ys : List Term} {text text' : String}
    (hx : x = f.outcome xs text) (hnext : next text = f.outcome ys text') :
    x >>= next = f.outcome (xs ++ ys) text' := by
  cases h : f.firstFailing? xs with
  | none =>
    rw [hx, Formatter.outcome_of_none h, Formatter.outcome,
      Formatter.firstFailing?_append_of_none h]
    exact hnext
  | some term =>
    obtain ⟨failure, hfailure⟩ := Formatter.eq_error_of_firstFailing? h
    rw [hx, Formatter.outcome_of_some h,
      Formatter.outcome_of_some (Formatter.firstFailing?_append_of_some h ys), hfailure]
    rfl

/-- A single term is asked for, and gives its fragment or its failure. -/
theorem Formatter.outcome_singleton (f : Formatter) (term : Term) :
    f.outcome [term] (f.fragment term) = f term ∧ f.asked [term] = [term] := by
  cases hterm : f term with
  | ok text =>
    have hsucceeds : f.succeeds term = true := Formatter.succeeds_iff.2 ⟨text, hterm⟩
    simp [Formatter.outcome, Formatter.asked, Formatter.firstFailing?, Formatter.fragment,
      hsucceeds, hterm]
  | error failure =>
    have hfails : f.succeeds term = false := by
      rw [Formatter.succeeds, hterm]
      rfl
    simp [Formatter.outcome, Formatter.asked, Formatter.firstFailing?, hfails, hterm]

theorem Formatter.outcome_invariant (f : Formatter) :
    ComposeInvariant f f.fragment fun x terms filter => x = f.outcome terms filter where
  text _ := rfl
  term term := (f.outcome_singleton term).1.symm
  bind := Formatter.bind_outcome

/-- **Composing gives what comes of the terms**, in reading order. -/
theorem Expression.compose_eq_outcome (f : Formatter) (e : Expression) :
    e.compose f = f.outcome e.terms (Expression.rendered f.fragment e) :=
  Expression.composeM_induction f.outcome_invariant e

/-! ## Noting what is asked for -/

/-- Computations that may fail and that note terms as they go. -/
abbrev Noting := ExceptT FormatError (StateM (List Term))

/-- The formatter that notes each term before it answers. -/
def Formatter.noting (f : Formatter) (term : Term) : Noting String :=
  fun seen => (f term, seen ++ [term])

/-- The computation asks for the terms in order, up to and including the first that fails, and gives
what comes of them. -/
def Formatter.Asks (f : Formatter) (x : Noting String) (terms : List Term) (filter : String) :
    Prop :=
  ∀ seen, x.run.run seen = (f.outcome terms filter, seen ++ f.asked terms)

/-- After a failure nothing more is asked for. -/
theorem Formatter.Asks.bind {f : Formatter} {x : Noting String} {next : String → Noting String}
    {xs ys : List Term} {text text' : String} (hx : f.Asks x xs text)
    (hnext : f.Asks (next text) ys text') : f.Asks (x >>= next) (xs ++ ys) text' := by
  intro seen
  rw [ExceptT.run_bind, StateT.run_bind, hx seen]
  cases h : f.firstFailing? xs with
  | none =>
    rw [Formatter.outcome_of_none h, Formatter.asked_append_of_none h, Formatter.outcome,
      Formatter.firstFailing?_append_of_none h, ← List.append_assoc]
    exact hnext _
  | some term =>
    obtain ⟨failure, hfailure⟩ := Formatter.eq_error_of_firstFailing? h
    rw [Formatter.outcome_of_some h,
      Formatter.outcome_of_some (Formatter.firstFailing?_append_of_some h ys), hfailure,
      Formatter.asked_append_of_some h]
    rfl

theorem Formatter.asks_invariant (f : Formatter) :
    ComposeInvariant f.noting f.fragment f.Asks where
  text text seen := by
    rw [show f.asked [] = [] from rfl, List.append_nil]
    rfl
  term term seen := by
    obtain ⟨houtcome, hasked⟩ := f.outcome_singleton term
    rw [houtcome, hasked]
    rfl
  bind := Formatter.Asks.bind

/-- **The notes of composing**: the terms in reading order, each once, up to and including the first
that has no fragment. -/
theorem Expression.run_composeM_noting (f : Formatter) (e : Expression) :
    (Expression.composeM f.noting e).run.run [] = (e.compose f, f.asked e.terms) := by
  rw [Expression.composeM_induction f.asks_invariant e [], Expression.compose_eq_outcome]
  rfl

/-! ## LIKE filters -/

/-- A fragment fails if its pattern is not quoted, and as that does. -/
theorem LikeFormatter.format_of_error {f : LikeFormatter} {term : Term} {failure : FormatError}
    (h : f.quoter.quote (likePattern term.text) = .error failure) :
    f.format term = .error failure := by
  rw [LikeFormatter.format, h]
  rfl

/-- A term has a fragment exactly if its pattern is quoted. -/
theorem LikeFormatter.succeeds_format (f : LikeFormatter) (term : Term) :
    Formatter.succeeds f.format term = (f.quoter.quote (likePattern term.text)).isOk := by
  rw [Formatter.succeeds]
  cases hquote : f.quoter.quote (likePattern term.text) with
  | error failure => rw [LikeFormatter.format_of_error hquote]
  | ok quoted =>
    rw [LikeFormatter.format, hquote]
    cases f.source <;> rfl

/-- The wildcards around a text hold no NUL. -/
theorem contains_likePattern (text : String) :
    (likePattern text).toList.contains '\x00' = text.toList.contains '\x00' := by
  simp [likePattern]

theorem Quoter.quote_ansi_of_nul {text : String} (h : text.toList.contains '\x00' = true) :
    Quoter.ansi.quote (likePattern text) =
      .error (.unquotable (likePattern text) "literal contains a NUL character") :=
  if_pos ((contains_likePattern text).trans h)

/-- Standard SQL quotes the pattern of a text without a NUL and of no other. -/
theorem Quoter.isOk_quote_ansi (text : String) :
    (Quoter.ansi.quote (likePattern text)).isOk = !text.toList.contains '\x00' := by
  cases h : text.toList.contains '\x00' with
  | true =>
    rw [Quoter.quote_ansi_of_nul h]
    rfl
  | false =>
    have hfree : ¬(likePattern text).toList.contains '\x00' = true := by
      rw [contains_likePattern, h]
      exact Bool.false_ne_true
    simp only [Quoter.ansi, if_neg hfree]
    rfl

/-- What comes of a filter whose literals hold no NUL: the first term with one is reported by its
pattern. -/
def nulOutcome (terms : List Term) (filter : String) : Except FormatError String :=
  match terms.find? fun term => term.text.toList.contains '\x00' with
  | some term => .error (.unquotable ("%" ++ term.text ++ "%") "literal contains a NUL character")
  | none => .ok filter

section Like

variable (source : DataSource)

/-- **In standard SQL a filter fails at the first term with a NUL**, and only there. -/
theorem Expression.compose_ansi (e : Expression) :
    e.compose (LikeFormatter.format { source, quoter := .ansi }) =
      nulOutcome e.terms (Expression.rendered
        (Formatter.fragment (LikeFormatter.format { source, quoter := .ansi })) e) := by
  have hfirst : Formatter.firstFailing? (LikeFormatter.format { source, quoter := .ansi }) e.terms =
      e.terms.find? fun term => term.text.toList.contains '\x00' := by
    simp only [Formatter.firstFailing?, LikeFormatter.succeeds_format, Quoter.isOk_quote_ansi,
      Bool.not_not]
  rw [Expression.compose_eq_outcome, Formatter.outcome, nulOutcome, hfirst]
  cases hnul : e.terms.find? fun term => term.text.toList.contains '\x00' with
  | none => rfl
  | some term =>
    have hterm := List.find?_some hnul
    exact LikeFormatter.format_of_error (Quoter.quote_ansi_of_nul hterm)

/-- **In MySQL no filter fails.** -/
theorem Expression.compose_mysql (e : Expression) :
    e.compose (LikeFormatter.format { source, quoter := .mysql }) =
      .ok (Expression.rendered
        (Formatter.fragment (LikeFormatter.format { source, quoter := .mysql })) e) := by
  have hnone : Formatter.firstFailing? (LikeFormatter.format { source, quoter := .mysql })
      e.terms = none := by
    refine List.find?_eq_none.2 fun term _ => ?_
    rw [LikeFormatter.succeeds_format]
    exact Bool.false_ne_true
  rw [Expression.compose_eq_outcome, Formatter.outcome_of_none hnone]

end Like

/-- **Composing is all or the first failure.**  The formatter is asked for the terms in reading
order, each once, up to and including the first that has no fragment; that term's failure is the
failure of the whole, and if there is none the filter is the rendering of the tree with the
fragments.  So a `LIKE` filter in standard SQL fails exactly if a term of the tree holds a NUL,
with the pattern of the first such term, and in MySQL it never fails; the same for queries. -/
theorem compose_first_failure (f : Formatter) (e : Expression) :
    (Expression.composeM f.noting e).run.run [] =
        (e.compose f,
          e.terms.takeWhile f.succeeds ++ (e.terms.find? fun term => !f.succeeds term).toList) ∧
      e.compose f =
        (match e.terms.find? fun term => !f.succeeds term with
        | some term => f term
        | none => .ok (Expression.rendered f.fragment e)) ∧
      (∀ (source : DataSource) (tree : Expression),
        tree.compose (LikeFormatter.format { source, quoter := .ansi }) =
            nulOutcome tree.terms (Expression.rendered
              (Formatter.fragment (LikeFormatter.format { source, quoter := .ansi })) tree) ∧
          tree.compose (LikeFormatter.format { source, quoter := .mysql }) =
            .ok (Expression.rendered
              (Formatter.fragment (LikeFormatter.format { source, quoter := .mysql })) tree)) ∧
      (∀ (source : DataSource) (q : Query),
        q.compose (LikeFormatter.format { source, quoter := .ansi }) =
            nulOutcome q.terms (Expression.rendered
              (Formatter.fragment (LikeFormatter.format { source, quoter := .ansi }))
              q.expression) ∧
          q.compose (LikeFormatter.format { source, quoter := .mysql }) =
            .ok (Expression.rendered
              (Formatter.fragment (LikeFormatter.format { source, quoter := .mysql }))
              q.expression)) ∧
      ∀ (source : DataSource) (text : String),
        composeText (LikeFormatter.format { source, quoter := .ansi }) text =
            nulOutcome (Query.parse .default text).terms (Expression.rendered
              (Formatter.fragment (LikeFormatter.format { source, quoter := .ansi }))
              (Query.parse .default text).expression) ∧
          composeText (LikeFormatter.format { source, quoter := .mysql }) text =
            .ok (Expression.rendered
              (Formatter.fragment (LikeFormatter.format { source, quoter := .mysql }))
              (Query.parse .default text).expression) :=
  ⟨Expression.run_composeM_noting f e, Expression.compose_eq_outcome f e,
    fun source tree =>
      ⟨Expression.compose_ansi source tree, Expression.compose_mysql source tree⟩,
    fun source q =>
      ⟨Expression.compose_ansi source q.expression, Expression.compose_mysql source q.expression⟩,
    fun source text =>
      ⟨Expression.compose_ansi source (Query.parse .default text).expression,
        Expression.compose_mysql source (Query.parse .default text).expression⟩⟩

-- The phrase in the group fails; neither its neighbour nor the same text further on is asked for.
example : (Expression.composeM (Formatter.noting fun term =>
      if term.exact then .error (.custom term.text) else .ok term.text)
      [.bare "a", .operator .or, .group [.phrase "b", .bare "c"], .phrase "b"]).run.run [] =
    (.error (.custom "b"), [⟨"a", false⟩, ⟨"b", true⟩]) := rfl

end BooleanSearch
