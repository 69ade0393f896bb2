import BooleanSearch.Proofs.Normalisation
import BooleanSearch.Proofs.RoundTrip
import BooleanSearch.Proofs.Template

/-!
# Quoters

What a reader makes of a quoted literal, and what is lost when a quoter is shared.

A quoted literal ends where it says it does: a reader that starts at its opening quote stops behind
its closing one and has read the literal, whatever follows it, as long as that is no other quote.

A shared quoter writes what the quoter itself writes, but takes delimiters off in the usual way.
Columns never need that; templates do, and there the two agree on a term exactly if the quoter's own
way is the usual one on that term's literal.

* `Dialect.readQuoted` — reads one literal from its opening quote on;
* `Dialect.readQuoted_quoted` — quoted literals delimit themselves and are read as what was quoted;
* `Template.fill_injective` — a filled template shows what it was filled with;
* `Quoter.StripsAsUsual` — the quoter takes the delimiters off a term's literal in the usual way;
* `format_shared_template_iff` — when a shared quoter gives the same fragment;
* `compose_shared` — when it gives the same filter.
-/

namespace BooleanSearch

/-! ## Literals delimit themselves -/

/-- Reads one literal from its opening quote on: the text that it stands for and what follows its
closing quote. -/
def Dialect.readQuoted (dialect : Dialect) : List Char → Option (List Char × List Char)
  | [] => none
  | c :: rest => if c = '\'' then dialect.readLiteral rest else none

/-- Standard SQL has no literal for a text with a NUL; MySQL has one for every text. -/
theorem Dialect.exists_quote_iff (dialect : Dialect) (literal : String) :
    (∃ quoted, dialect.quoter.quote literal = .ok quoted) ↔
      (dialect = .ansi → '\x00' ∉ literal.toList) := by
  cases dialect with
  | ansi =>
    by_cases hnul : '\x00' ∈ literal.toList <;> simp [Dialect.quoter, Quoter.ansi, hnul]
  | mysql => simp [Dialect.quoter, Quoter.mysql]

/-- **Quoted literals delimit themselves.**  A literal has a quoted form unless it holds a NUL and
the dialect is standard SQL.  In front of any text that does not go on with a quote, reading takes
the quoted form and no more, and gives the literal back.  Unquoting leaves what stands between the
outer quotes, so that the quotes put back give the quoted form again. -/
theorem Dialect.readQuoted_quoted (dialect : Dialect) (literal : String) :
    ((∃ quoted, dialect.quoter.quote literal = .ok quoted) ↔
        (dialect = .ansi → '\x00' ∉ literal.toList)) ∧
      ∀ quoted, dialect.quoter.quote literal = .ok quoted →
        (∀ rest : String, rest.toList.head? ≠ some '\'' →
          dialect.readQuoted (quoted ++ rest).toList = some (literal.toList, rest.toList)) ∧
        "'" ++ dialect.quoter.unquote quoted ++ "'" = quoted := by
  refine ⟨dialect.exists_quote_iff literal, fun quoted hquoted => ⟨fun rest hrest => ?_, ?_⟩⟩
  · have htext : (quoted ++ rest).toList =
        '\'' :: (literal.toList.flatMap dialect.escape ++ '\'' :: rest.toList) := by
      rw [String.toList_append, Dialect.quote_eq_ok hquoted]
      simp
    rw [htext, Dialect.readQuoted, if_pos rfl]
    exact dialect.readLiteral_escaped hrest literal.toList
  · exact (Dialect.quote_eq_enclosed hquoted).symm

/-- Quotes and backslashes at both ends, in front of a text that holds more of them. -/
theorem Dialect.readQuoted_quoted_ends :
    Dialect.ansi.quoter.quote "'\\''" = .ok "'''\\'''''" ∧
      Dialect.mysql.quoter.quote "\x00'\\" = .ok "'\\0\\'\\\\'" ∧
      (" OR ''" : String).toList.head? ≠ some '\'' ∧
      Dialect.ansi.readQuoted ("'''\\'''''" ++ " OR ''").toList =
        some ("'\\''".toList, " OR ''".toList) ∧
      Dialect.mysql.readQuoted ("'\\0\\'\\\\'" ++ " OR ''").toList =
        some ("\x00'\\".toList, " OR ''".toList) ∧
      "'" ++ Dialect.mysql.quoter.unquote "'\\0\\'\\\\'" ++ "'" = "'\\0\\'\\\\'" := by
  have hansi : Dialect.ansi.quoter.quote "'\\''" = .ok "'''\\'''''" := by decide +kernel
  have hmysql : Dialect.mysql.quoter.quote "\x00'\\" = .ok "'\\0\\'\\\\'" := by decide +kernel
  have hrest : (" OR ''" : String).toList.head? ≠ some '\'' := by decide
  obtain ⟨hreadAnsi, -⟩ := (Dialect.ansi.readQuoted_quoted "'\\''").2 _ hansi
  obtain ⟨hreadMysql, hunquote⟩ := (Dialect.mysql.readQuoted_quoted "\x00'\\").2 _ hmysql
  exact ⟨hansi, hmysql, hrest, hreadAnsi _ hrest, hreadMysql _ hrest, hunquote⟩

/-! ## Filled templates -/

/-- A joined text is as long as its parts and one separator less than there are parts. -/
theorem length_intercalate_cons (separator part : List Char) (parts : List (List Char)) :
    (List.intercalate separator (part :: parts)).length =
      (part :: parts).flatten.length + parts.length * separator.length := by
  induction parts generalizing part with
  | nil => simp [List.intercalate]
  | cons next parts ih =>
    rw [List.intercalate_cons_cons, List.length_append, List.length_append, ih next]
    simp only [List.flatten_cons, List.length_append, List.length_cons, Nat.add_mul, Nat.one_mul]
    omega

/-- Two parts or more, joined, show the separator: its length first, and so where it ends. -/
theorem separator_eq_of_intercalate_eq {xs ys : List Char} {parts : List (List Char)}
    (hparts : 2 ≤ parts.length) (h : List.intercalate xs parts = List.intercalate ys parts) :
    xs = ys := by
  rcases parts with _ | ⟨part, _ | ⟨next, parts⟩⟩
  · simp at hparts
  · simp at hparts
  · have hlength : xs.length = ys.length := by
      have htotal := congrArg List.length h
      rw [length_intercalate_cons, length_intercalate_cons, Nat.add_left_cancel_iff] at htotal
      exact Nat.eq_of_mul_eq_mul_left (Nat.succ_pos parts.length) htotal
    rw [List.intercalate_cons_cons, List.intercalate_cons_cons, List.append_assoc,
      List.append_assoc] at h
    exact (List.append_inj (List.append_cancel_left h) hlength).1

/-- **A filled template shows what it was filled with**, since its marker occurs in it. -/
theorem Template.fill_injective (t : Template) : Function.Injective t.fill := by
  intro pattern pattern' h
  have hmarker : t.marker.toList ≠ [] := by simpa using t.marker_ne_empty
  have hsplit : IsSplit t.marker.toList t.text.toList (segments t.marker.toList t.text.toList) :=
    (segments_eq_iff hmarker).1 rfl
  have htwo := hsplit.two_le_length ((occursIn_iff _).1 t.marker_occurs)
  have hjoined := String.ofList_inj.1 h
  exact String.toList_inj.1 (separator_eq_of_intercalate_eq htwo hjoined)

/-! ## Sharing a quoter -/

mutual

/-- A token is composed from the fragments of its terms alone. -/
theorem Token.composeM_congr {m : Type → Type} [Monad m] {f g : Term → m String} (t : Token)
    (h : ∀ term ∈ t.terms, f term = g term) : t.composeM f = t.composeM g := by
  cases t with
  | bare text => exact h _ (List.mem_singleton_self _)
  | phrase text => exact h _ (List.mem_singleton_self _)
  | operator op => rfl
  | group children =>
    rw [Token.composeM, Token.composeM, Expression.composeM_congr children h]

/-- An expression is composed from the fragments of its terms alone. -/
theorem Expression.composeM_congr {m : Type → Type} [Monad m] {f g : Term → m String}
    (e : Expression) (h : ∀ term ∈ e.terms, f term = g term) :
    Expression.composeM f e = Expression.composeM g e := by
  cases e with
  | nil => rfl
  | cons t ts =>
    rw [Expression.terms, List.forall_mem_append] at h
    rw [Expression.composeM, Expression.composeM, Token.composeM_congr t h.1,
      Expression.composeM_congr ts h.2]

end

/-- Off the literal of a term the quoter takes the delimiters in the usual way. -/
def Quoter.StripsAsUsual (q : Quoter) (text : String) : Prop :=
  ∀ quoted, q.quote (likePattern text) = .ok quoted →
    q.unquote quoted = stripDelimiters q.delimiter quoted

/-- **A shared quoter fills a template in the same way** with a term exactly if the quoter takes
the delimiters off its literal in the usual way. -/
theorem format_shared_template_iff (q : Quoter) (t : Template) (term : Term) :
    LikeFormatter.format { source := .template t, quoter := q.shared } term =
        LikeFormatter.format { source := .template t, quoter := q } term ↔
      q.StripsAsUsual term.text := by
  cases hquote : q.quote (likePattern term.text) with
  | error failure =>
    -- both fail on the literal, before anything is taken off it
    have hfail : ∀ r : Quoter, r.quote = q.quote →
        LikeFormatter.format { source := .template t, quoter := r } term = .error failure := by
      intro r hr
      rw [LikeFormatter.format, hr, hquote]
      rfl
    have hstrips : q.StripsAsUsual term.text := by
      intro quoted hquoted
      rw [hquote] at hquoted
      cases hquoted
    rw [hfail q.shared rfl, hfail q rfl]
    exact iff_of_true rfl hstrips
  | ok quoted =>
    have hshared : q.shared.quote (likePattern term.text) = .ok quoted := hquote
    rw [format_template term.exact hshared, format_template term.exact hquote, Except.ok.injEq,
      t.fill_injective.eq_iff]
    constructor
    · intro h other hother
      rw [hquote] at hother
      rw [← Except.ok.inj hother]
      exact h.symm
    · intro h
      exact (h quoted hquote).symm

/-! ## A phrase as a search text -/

/-- A phrase in double quotes is read as that phrase, whatever the depth limit. -/
theorem Query.parse_phrase (reader : Tokenizer) {phrase : String}
    (hquote : '"' ∉ phrase.toList) (hblank : isBlank phrase.toList = false) :
    (Query.parse reader ("\"" ++ phrase ++ "\"")).expression = [.phrase phrase] := by
  have hcanon : Expression.tokensAreCanonical false [.phrase phrase] = true := by
    refine Expression.tokensAreCanonical_cons.2 ⟨decide_eq_true ?_, rfl⟩
    exact { no_quote := hquote, not_blank := hblank, balanced := nofun }
  have htext : ("\"" ++ phrase ++ "\"").toList = trim (Expression.written [.phrase phrase]) := by
    rw [Expression.trim_written (Expression.operandsTight_of_canonical hcanon) rfl rfl]
    simp [Expression.written, Token.written]
  have hread : reader.tokenize ("\"" ++ phrase ++ "\"") = [.phrase phrase] := by
    rw [Tokenizer.tokenize, htext, scan_trim_written reader.maxDepth hcanon rfl]
    exact Expression.cutBelow_eq_self _ _ (Nat.zero_le _)
  rw [Query.parse, hread]
  exact Expression.filter_eq_self rfl

/-- The filter of one phrase is its fragment. -/
theorem Expression.compose_phrase (f : Formatter) (phrase : String) :
    Expression.compose f [.phrase phrase] = f ⟨phrase, true⟩ := by
  rw [Expression.compose, Expression.composeM, Token.composeM, Expression.composeM]
  cases f ⟨phrase, true⟩ with
  | error failure => rfl
  | ok fragment => exact congrArg Except.ok String.append_empty

/-- **Composing with a shared quoter.**  Over a column it makes no difference, whatever the quoter.
Over a template it makes none as long as the quoter takes delimiters off in the usual way, at least
on the terms of the query; and a quoter that does not do so on some phrase is told from its shared
form by the query for that phrase. -/
theorem compose_shared (q : Quoter) (reader : Tokenizer) :
    (∀ column text, (Query.parse reader text).compose
          (LikeFormatter.format { source := .column column, quoter := q.shared }) =
        (Query.parse reader text).compose
          (LikeFormatter.format { source := .column column, quoter := q })) ∧
      ∀ t : Template,
        (∀ text, (∀ term ∈ (Query.parse reader text).terms, q.StripsAsUsual term.text) →
          (Query.parse reader text).compose
              (LikeFormatter.format { source := .template t, quoter := q.shared }) =
            (Query.parse reader text).compose
              (LikeFormatter.format { source := .template t, quoter := q })) ∧
        ∀ phrase : String, '"' ∉ phrase.toList → isBlank phrase.toList = false →
          ((Query.parse reader ("\"" ++ phrase ++ "\"")).compose
                (LikeFormatter.format { source := .template t, quoter := q.shared }) =
              (Query.parse reader ("\"" ++ phrase ++ "\"")).compose
                (LikeFormatter.format { source := .template t, quoter := q }) ↔
            q.StripsAsUsual phrase) := by
  refine ⟨fun column text => rfl, fun t => ⟨fun text hterms => ?_, ?_⟩⟩
  · refine Expression.composeM_congr _ fun term hterm => ?_
    exact (format_shared_template_iff q t term).2 (hterms term hterm)
  · intro phrase hquote hblank
    rw [Query.compose, Query.compose, Query.parse_phrase reader hquote hblank,
      Expression.compose_phrase, Expression.compose_phrase]
    exact format_shared_template_iff q t ⟨phrase, true⟩

/-- Quotes around the text as it is; unquoting takes the first and the last character, whatever they
are. -/
def Quoter.plain : Quoter where
  delimiter := '\''
  quote literal := .ok (enclose '\'' literal.toList)
  unquote quoted := String.ofList quoted.toList.tail.dropLast

theorem Quoter.stripsAsUsual_plain (text : String) : Quoter.plain.StripsAsUsual text := by
  intro quoted hquoted
  obtain rfl := Except.ok.inj hquoted
  rw [Quoter.plain, stripDelimiters_enclose]
  simp [enclose]

/-- Literals of standard SQL with an `N` in front, as national character strings have it; unquoting
takes the letter off with the quotes. -/
def Quoter.national : Quoter where
  delimiter := '\''
  quote literal := (Quoter.ansi.quote literal).map fun quoted => "N" ++ quoted
  unquote quoted := stripDelimiters '\'' (String.ofList quoted.toList.tail)

/-- A quoter whose own way of unquoting comes to the usual one, and one whose way does not. -/
theorem compose_shared_plain :
    (∀ term ∈ (Query.parse .default "a OR \"b c\"").terms,
        Quoter.plain.StripsAsUsual term.text) ∧
      '"' ∉ "b c".toList ∧ isBlank "b c".toList = false ∧
      ∃ t : Template, Template.parse "c LIKE '#'" "#" = .ok t ∧
        composeText (LikeFormatter.format { source := .template t, quoter := Quoter.plain.shared })
            "a OR \"b c\"" = .ok "c LIKE '%a%' OR c LIKE '%b c%'" ∧
        composeText
            (LikeFormatter.format { source := .template t, quoter := Quoter.national.shared })
            "\"b c\"" ≠
          composeText (LikeFormatter.format { source := .template t, quoter := Quoter.national })
            "\"b c\"" := by
  have hstrips : ∀ term ∈ (Query.parse .default "a OR \"b c\"").terms,
      Quoter.plain.StripsAsUsual term.text := fun term _ => Quoter.stripsAsUsual_plain term.text
  have hquote : '"' ∉ "b c".toList := by decide
  have hblank : isBlank "b c".toList = false := by decide +kernel
  have hkept : ¬Quoter.national.StripsAsUsual "b c" := by
    intro h
    have hsame := h "N'%b c%'" (by decide +kernel)
    exact absurd hsame (by decide +kernel)
  refine ⟨hstrips, hquote, hblank, ⟨"c LIKE '#'", "#", by decide, by decide +kernel⟩, ?_, ?_, ?_⟩
  · rfl
  · exact (((compose_shared .plain .default).2 _).1 _ hstrips).trans (by decide +kernel)
  · exact fun h => hkept ((((compose_shared .national .default).2 _).2 _ hquote hblank).1 h)

/-- The letter of a national literal stands in the template; a shared quoter leaves it, and the
quotes behind it, on the literal as well. -/
theorem compose_shared_national :
    ∃ t : Template, Template.parse "c LIKE N'#'" "#" = .ok t ∧
      composeText (LikeFormatter.format { source := .template t, quoter := Quoter.national }) "a" =
        .ok "c LIKE N'%a%'" ∧
      composeText
          (LikeFormatter.format { source := .template t, quoter := Quoter.national.shared }) "a" =
        .ok "c LIKE N'N'%a%''" :=
  ⟨⟨"c LIKE N'#'", "#", by decide, by decide +kernel⟩, rfl, by decide +kernel, by decide +kernel⟩

end BooleanSearch
