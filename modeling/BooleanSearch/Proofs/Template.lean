import BooleanSearch.Proofs.Literal
import BooleanSearch.Proofs.Segments
import BooleanSearch.Query

/-!
# A column as a template

Comparing a column with `LIKE` is filling a template: the column, `LIKE` and a marker between two
quotes.  The marker may be any text whose first character does not occur in front of it, so that it
is found where it was put and nowhere else.

* `cutMarkers_append` — what the search for markers does to text without the marker's first
  character;
* `replaceMarker_between` — a marker that stands once is replaced there and nowhere else;
* `stripDelimiters_enclose` — unquoting takes the outer delimiters and no escaped one;
* `format_template_eq_format_column` — the two formatters agree on every term;
* `composeText_template_eq_column` — so they compose every search text to the same filter.
-/

namespace BooleanSearch

/-! ## The search for markers -/

/-- Where the marker's first character does not occur, no marker begins. -/
theorem unmarked_of_head {marker text : List Char} (hne : marker ≠ [])
    (htext : ∀ c ∈ text, marker.head? ≠ some c) (rest : List Char) :
    Unmarked marker text rest := by
  intro front back heq hback hprefix
  cases marker with
  | nil => exact hne rfl
  | cons m marker =>
    cases back with
    | nil => exact hback rfl
    | cons c back =>
      obtain rfl : m = c := (List.cons_prefix_cons.1 hprefix).1
      exact htext m (by simp [heq]) rfl

/-- Text in which the marker's first character does not occur is held. -/
theorem cutMarkers_append {marker text : List Char} (hne : marker ≠ [])
    (htext : ∀ c ∈ text, marker.head? ≠ some c) (held rest : List Char) :
    cutMarkers marker held 0 (text ++ rest) =
      cutMarkers marker (text.reverse ++ held) 0 rest :=
  cutMarkers_held (unmarked_of_head hne htext rest) held

/-- A marker whose first character stands nowhere else is replaced where it is and nowhere else. -/
theorem replaceMarker_between {marker front back : List Char} (hne : marker ≠ [])
    (hfront : ∀ c ∈ front, marker.head? ≠ some c) (hback : ∀ c ∈ back, marker.head? ≠ some c)
    (replacement : List Char) :
    replaceMarker marker replacement (front ++ (marker ++ back)) =
      front ++ (replacement ++ back) := by
  have hend : cutMarkers marker [] 0 back = [back] := by
    have hrun := cutMarkers_append hne hback [] []
    rw [List.append_nil, List.append_nil] at hrun
    rw [hrun, cutMarkers, List.reverse_reverse]
  rw [replaceMarker, segments, cutMarkers_append hne hfront, cutMarkers_marker hne, hend]
  simp [List.intercalate]

/-- A marker occurs wherever it is put. -/
theorem occursIn_between (marker front back : List Char) :
    occursIn marker (front ++ (marker ++ back)) = true :=
  (occursIn_iff _).2 ⟨front, back, List.append_assoc front marker back⟩

/-! ## Quotes around a literal -/

/-- Unquoting takes the two outer delimiters, whatever stands between them. -/
theorem stripDelimiters_enclose (delimiter : Char) (escaped : List Char) :
    stripDelimiters delimiter (enclose delimiter escaped) = String.ofList escaped := by
  simp [stripDelimiters, enclose]

/-- What a dialect quotes is its unquoted text between two quotes. -/
theorem Dialect.quote_eq_enclosed {dialect : Dialect} {literal quoted : String}
    (h : dialect.quoter.quote literal = .ok quoted) :
    quoted = "'" ++ dialect.quoter.unquote quoted ++ "'" := by
  have hquoted : quoted = enclose '\'' (literal.toList.flatMap dialect.escape) := by
    apply String.toList_inj.1
    rw [Dialect.quote_eq_ok h]
    simp [enclose]
  have hunquote : dialect.quoter.unquote quoted =
      String.ofList (literal.toList.flatMap dialect.escape) := by
    have hstrip : dialect.quoter.unquote = stripDelimiters '\'' := by
      cases dialect <;> rfl
    rw [hstrip, hquoted, stripDelimiters_enclose]
  apply String.toList_inj.1
  rw [hunquote, hquoted]
  simp [enclose]

/-! ## The two formatters -/

/-- The template that compares a column with the pattern in place of a marker. -/
def likeTemplate (column marker : String) : String :=
  column ++ " LIKE '" ++ marker ++ "'"

section OneMarker

variable {column marker : String} (hne : marker ≠ "")
  (hfirst : ∀ c ∈ marker.toList.head?, c ∉ (column ++ " LIKE '").toList)

include hne

theorem toList_marker_ne_nil : marker.toList ≠ [] := by
  simpa using hne

/-- The template is accepted with its marker. -/
theorem parse_likeTemplate :
    ∃ t : Template, Template.parse (likeTemplate column marker) marker = .ok t ∧
      t.text = likeTemplate column marker ∧ t.marker = marker := by
  have hoccurs : occursIn marker.toList (likeTemplate column marker).toList = true := by
    have hsome := occursIn_between marker.toList (column ++ " LIKE '").toList ['\'']
    rw [likeTemplate, String.toList_append, String.toList_append, List.append_assoc]
    exact hsome
  exact ⟨⟨_, marker, hne, hoccurs⟩, by rw [Template.parse, dif_neg hne, dif_pos hoccurs], rfl, rfl⟩

include hfirst

/-- Filled, the template compares the column with the pattern between the quotes. -/
theorem fill_likeTemplate {t : Template} (htext : t.text = likeTemplate column marker)
    (hmarker : t.marker = marker) (pattern : String) :
    t.fill pattern = likeTemplate column pattern := by
  have hfront : ∀ c ∈ (column ++ " LIKE '").toList, marker.toList.head? ≠ some c :=
    fun c hc hhead => hfirst c hhead hc
  have hback : ∀ c ∈ ['\''], marker.toList.head? ≠ some c := by
    intro c hc hhead
    obtain rfl := List.mem_singleton.1 hc
    exact hfirst '\'' hhead (by simp)
  have hreplace := replaceMarker_between (toList_marker_ne_nil hne) hfront hback pattern.toList
  have hsplit : ∀ x : String, (likeTemplate column x).toList =
      (column ++ " LIKE '").toList ++ (x.toList ++ ['\'']) := by
    intro x
    simp [likeTemplate]
  apply String.toList_inj.1
  rw [Template.fill, String.toList_ofList, htext, hmarker, hsplit, hsplit, hreplace]

/-- **The two formatters agree** on every term, also in how they fail. -/
theorem format_template_eq_format_column {t : Template}
    (htext : t.text = likeTemplate column marker) (hmarker : t.marker = marker)
    (dialect : Dialect) :
    LikeFormatter.format { source := .template t, quoter := dialect.quoter } =
      LikeFormatter.format { source := .column column, quoter := dialect.quoter } := by
  funext term
  simp only [LikeFormatter.format]
  cases hquote : dialect.quoter.quote (likePattern term.text) with
  | error failure =>
    show (Except.error failure : Except FormatError String) = Except.error failure
    rfl
  | ok quoted =>
    have hfill : t.fill (dialect.quoter.unquote quoted) = column ++ " LIKE " ++ quoted := by
      calc t.fill (dialect.quoter.unquote quoted)
          = column ++ " LIKE '" ++ dialect.quoter.unquote quoted ++ "'" :=
            fill_likeTemplate hne hfirst htext hmarker _
        _ = column ++ " LIKE " ++ ("'" ++ dialect.quoter.unquote quoted ++ "'") := by
            simp [← String.toList_inj]
        _ = column ++ " LIKE " ++ quoted := by rw [← Dialect.quote_eq_enclosed hquote]
    exact congrArg Except.ok hfill

end OneMarker

/-- With a data source that is accepted, a query is composed unless it is empty. -/
theorem composeLike_eq {source : String} {marker? : Option String} {dataSource : DataSource}
    (h : DataSource.parse source marker? = .ok dataSource) (text : String) :
    composeLike text source marker? =
      if (Query.parse .default text).isEmpty then .ok "" else
        (Query.parse .default text).compose (LikeFormatter.format { source := dataSource }) := by
  rw [composeLike, h]
  generalize Query.parse .default text = query
  cases query.isEmpty <;> rfl

/-- **A column is a template.**  With a marker whose first character does not occur in front of it,
the template that compares a column with `LIKE` is accepted, and every search text is composed with
it as with the column, to the same filter or to the same failure, in either dialect.  The same holds
of the composition that makes its formatter itself. -/
theorem composeText_template_eq_column {column marker : String} (hne : marker ≠ "")
    (hfirst : ∀ c ∈ marker.toList.head?, c ∉ (column ++ " LIKE '").toList) (text : String) :
    (∃ t : Template, Template.parse (column ++ " LIKE '" ++ marker ++ "'") marker = .ok t ∧
        ∀ dialect : Dialect,
          composeText
              (LikeFormatter.format { source := .template t, quoter := dialect.quoter }) text =
            composeText
              (LikeFormatter.format { source := .column column, quoter := dialect.quoter }) text) ∧
      composeLike text (column ++ " LIKE '" ++ marker ++ "'") (some marker) =
        composeLike text column none := by
  obtain ⟨t, hparse, htext, hmarker⟩ := @parse_likeTemplate column marker hne
  have hformat := format_template_eq_format_column hne hfirst htext hmarker
  refine ⟨⟨t, hparse, fun dialect => by rw [hformat dialect]⟩, ?_⟩
  have hsource : DataSource.parse (likeTemplate column marker) (some marker) =
      .ok (.template t) := by
    rw [DataSource.parse, hparse]
    rfl
  have hansi : LikeFormatter.format { source := .template t } =
      LikeFormatter.format { source := .column column } := hformat .ansi
  have hcolumn : DataSource.parse column none = .ok (.column column) := rfl
  rw [show column ++ " LIKE '" ++ marker ++ "'" = likeTemplate column marker from rfl,
    composeLike_eq hsource, composeLike_eq hcolumn, hansi]

/-- A marker that occurs in the user's terms, next to a quote and a backslash. -/
theorem composeText_template_eq_column_quoted :
    "?" ≠ "" ∧ (∀ c ∈ "?".toList.head?, c ∉ ("c" ++ " LIKE '").toList) ∧
      ∃ t : Template, Template.parse ("c" ++ " LIKE '" ++ "?" ++ "'") "?" = .ok t ∧
        composeText (LikeFormatter.format { source := .template t, quoter := Dialect.mysql.quoter })
          "'?\\ OR ?" = .ok "c LIKE '%\\'?\\\\%' OR c LIKE '%?%'" := by
  have hne : "?" ≠ "" := by decide
  have hfirst : ∀ c ∈ "?".toList.head?, c ∉ ("c" ++ " LIKE '").toList := by
    intro c hc
    obtain rfl : '?' = c := Option.some.inj hc
    decide
  obtain ⟨⟨t, hparse, hcompose⟩, -⟩ :=
    composeText_template_eq_column hne hfirst "'?\\ OR ?"
  exact ⟨hne, hfirst, t, hparse, (hcompose .mysql).trans (by cbv)⟩

end BooleanSearch
