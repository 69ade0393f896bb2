import BooleanSearch.Proofs.DepthLimit
import BooleanSearch.Proofs.Joining
import BooleanSearch.Proofs.Rereading

/-!
# Groups kept as text

A group below the depth limit stays a bare term with its parentheses, and such a term may be read
again.  Whether it is then read as itself depends on its parentheses alone: a group that the text
closes is balanced, and a group that is still open when the text ends may hold parentheses that are
open too, of which the one that was added closes the innermost.

* `KeptInside` — what the inside of such a term is like;
* `group_mem_pieces` — the groups of a level, from the counts of the automaton;
* `exists_keptInside` — every bare term that begins with a parenthesis has such an inside, by
  induction on the room for groups;
* `scan_zero_of_balanced`, `scan_zero_of_not_balanced` — what such a term is read as where no group
  is expanded;
* `tokenize_kept` — the statement for a reader with its limit, with `tokenize_kept_unclosed` for a
  term that is not read as itself.
-/

namespace BooleanSearch

/-- The inside of a group that a reading of `text` keeps as a term. -/
structure KeptInside (text inner : List Char) : Prop where
  not_blank : isBlank inner = false
  trimmed : trim inner = inner
  closes : ClosesWithin inner
  /-- Only parentheses that are open inside the last group of the text stay open. -/
  balanced : (∀ n, modeAfter text ≠ .group (n + 1)) → Balanced inner

/-! ## The groups of a level -/

/-- Cutting at operators makes no group. -/
theorem group_not_mem_cutOperators (inner held : List Char) (passing : Nat) (text : List Char) :
    .group inner ∉ cutOperators held passing text := by
  fun_induction cutOperators held passing text with
  | case1 held passing => simp
  | case2 held passing c rest ih => exact ih
  | case3 held c rest op hop ih => simpa using ih
  | case4 held c rest hop ih => exact ih

/-- The groups of a level close nothing they did not open, and they are balanced unless the level
ends with more than its last group open. -/
theorem group_mem_pieces {text inner : List Char} (h : .group inner ∈ pieces text) :
    ClosesWithin inner ∧ ((∀ n, modeAfter text ≠ .group (n + 1)) → Balanced inner) := by
  rw [pieces_eq_flatMap] at h
  obtain ⟨region, hregion, hinner⟩ := List.mem_flatMap.1 h
  have hgroup : region = .group inner := by
    cases region with
    | bare bareText => exact absurd hinner (group_not_mem_cutOperators inner [] 0 bareText)
    | _ => exact (List.mem_singleton.1 hinner).symm
  rw [hgroup] at hregion
  have hcounts : Mode.bare.Counts ([] : List Char).reverse := trivial
  have hends := regions_groups hcounts hregion
  rw [show (' ' :: trim text).foldl Mode.next .bare = modeAfter (' ' :: trim text) from rfl,
    modeAfter_trim] at hends
  exact hends

/-! ## Bare terms that begin with a parenthesis -/

/-- A bare term that begins with a parenthesis comes from a group: other bare text holds none. -/
theorem exists_group_of_isKept {group : List Char → Expression} {text : List Char} {term : Term}
    (hterm : term ∈ Expression.terms ((pieces text).flatMap (Piece.tokens group)))
    (hkept : term.isKept = true) :
    ∃ inner, .group inner ∈ pieces text ∧ isBlank inner = false ∧
      term ∈ Expression.terms (group (trim inner)) := by
  rw [Expression.terms_eq_flatMap, List.flatMap_assoc, List.mem_flatMap] at hterm
  obtain ⟨piece, hpiece, hterm⟩ := hterm
  rw [← Expression.terms_eq_flatMap] at hterm
  cases piece with
  | bare bareText =>
    have hshape : PlainText bareText := pieces_hasShape text _ hpiece
    rw [Piece.tokens] at hterm
    split at hterm
    · cases hterm
    · obtain rfl : term = ⟨String.ofList (trim bareText), false⟩ := by
        simpa [Expression.terms, Token.terms] using hterm
      have hhead : (trim bareText).head? = some '(' := by simpa [Term.isKept] using hkept
      have hmem : '(' ∈ trim bareText := List.mem_of_mem_head? (by simp [hhead])
      exact absurd ((trim_isInfix bareText).subset hmem) hshape.no_open
  | phrase phraseText =>
    rw [Piece.tokens] at hterm
    split at hterm
    · cases hterm
    · obtain rfl : term = ⟨String.ofList phraseText, true⟩ := by
        simpa [Expression.terms, Token.terms] using hterm
      simp [Term.isKept] at hkept
  | group inner =>
    rw [Piece.tokens] at hterm
    split at hterm
    · cases hterm
    · rename_i hblank
      exact ⟨inner, hpiece, eq_false_of_ne_true hblank, hterm⟩
  | operator op => simp [Piece.tokens, Expression.terms, Token.terms] at hterm

/-- **Every bare term that begins with a parenthesis is a kept group**, by induction on the room
for groups.  A group that is expanded above it was closed if the text closes what it opens, and then
it leaves no group open itself. -/
theorem exists_keptInside (room : Nat) {text : List Char} {term : Term}
    (hterm : term ∈ Expression.terms (scan room text)) (hkept : term.isKept = true) :
    ∃ inner, KeptInside text inner ∧ term.text.toList = bracketed inner := by
  induction room generalizing text with
  | zero =>
    obtain ⟨inner, hpiece, hblank, hterm⟩ := exists_group_of_isKept hterm hkept
    obtain ⟨hcloses, hbalanced⟩ := group_mem_pieces hpiece
    obtain rfl : term = ⟨String.ofList (bracketed (trim inner)), false⟩ := by
      simpa [Expression.terms, Token.terms] using hterm
    exact ⟨trim inner,
      { not_blank := (isBlank_trim inner).trans hblank
        trimmed := trim_trim inner
        closes := hcloses.trim
        balanced := fun hend => (hbalanced hend).trim },
      String.toList_ofList⟩
  | succ room ih =>
    obtain ⟨inner, hpiece, hblank, hterm⟩ := exists_group_of_isKept hterm hkept
    rw [Expression.terms_asGroup] at hterm
    obtain ⟨inner', hinside, htext⟩ := ih hterm
    refine ⟨inner', { hinside with balanced := fun hend => hinside.balanced fun n => ?_ }, htext⟩
    exact modeAfter_ne_group ((group_mem_pieces hpiece).2 hend).trim (n + 1)

/-! ## Reading such a term again -/

/-- In parentheses, text that closes nothing it did not open is balanced exactly if it is without
them. -/
theorem balanced_bracketed_iff {inner : List Char} (h : ClosesWithin inner) :
    Balanced (bracketed inner) ↔ Balanced inner := by
  constructor
  · intro hbalanced
    have htotal := hbalanced.total
    rw [(count_bracketed inner).1, (count_bracketed inner).2] at htotal
    exact ⟨h, by omega⟩
  · exact Balanced.bracket

/-- A group that the level leaves open is closed at its end. -/
theorem readLevel_open (room : Nat) {inner : List Char} (h : ClosesWithin inner) :
    readLevel room [] ('(' :: inner) = (Piece.group inner).tokens (readGroup room) := by
  rw [readLevel, piecesFrom_open h, List.flatMap_cons, List.flatMap_singleton, tokens_held,
    heldTokens_of_isBlank rfl, List.nil_append]

/-- A group that the level closes at its end. -/
theorem readLevel_closed (room : Nat) {inner : List Char} (h : Balanced inner) :
    readLevel room [] ('(' :: (inner ++ [')'])) = (Piece.group inner).tokens (readGroup room) := by
  rw [readLevel_group room h, heldTokens_of_isBlank rfl]
  exact List.append_nil _

/-- A text that begins with a parenthesis is a level without a space in front. -/
theorem scan_parenthesis (room : Nat) {rest : List Char}
    (hlast : ('(' :: rest).getLast?.any isDelimiter = false) :
    scan room ('(' :: rest) = readLevel room [] ('(' :: rest) := by
  have hboundary : AtBoundary ('(' :: rest) := by
    intro c hc
    obtain rfl : '(' = c := Option.some.inj hc
    simp
  rw [scan_eq_of_getLast? room hlast, readLevel_space room hboundary]

/-- Text in parentheses is such a level. -/
theorem scan_bracketed (room : Nat) (inner : List Char) :
    scan room (bracketed inner) = readLevel room [] ('(' :: (inner ++ [')'])) := by
  have hlast : (bracketed inner).getLast?.any isDelimiter = false := by
    rw [bracketed, List.getLast?_append]
    rfl
  exact scan_parenthesis room hlast

/-- A balanced text in parentheses is one group and nothing else. -/
theorem scan_bracketed_of_balanced (room : Nat) {inner : List Char} (h : Balanced inner) :
    scan room (bracketed inner) = (Piece.group inner).tokens (readGroup room) := by
  rw [scan_bracketed, readLevel_closed room h]

/-- **A kept group is read again** as itself if it is balanced. -/
theorem scan_zero_of_balanced {text inner : List Char} (h : KeptInside text inner)
    (hbalanced : Balanced inner) :
    scan 0 (bracketed inner) = [.bare (String.ofList (bracketed inner))] := by
  rw [scan_bracketed_of_balanced 0 hbalanced, Piece.tokens, h.not_blank, if_neg Bool.false_ne_true,
    h.trimmed]
  rfl

/-- Otherwise its last parenthesis closes one of those inside, and the group that is left open then
is closed by another one. -/
theorem scan_zero_of_not_balanced {text inner : List Char} (h : KeptInside text inner)
    (hopen : ¬Balanced inner) :
    scan 0 (bracketed inner) = [.bare (String.ofList (bracketed inner ++ [')']))] := by
  have hle : inner.count ')' ≤ inner.count '(' := h.closes inner List.prefix_rfl
  have hne : inner.count '(' ≠ inner.count ')' := fun heq => hopen ⟨h.closes, heq⟩
  have hcloses : ClosesWithin (inner ++ [')']) := by
    apply h.closes.concat
    simp
    omega
  have hhead : (inner ++ [')']).head?.any isDelimiter = false := by
    have hinner : inner ≠ [] := by
      rintro rfl
      cases h.not_blank
    rw [List.head?_append_of_ne_nil _ hinner, ← h.trimmed]
    exact head?_trim inner
  have htrim : trim (inner ++ [')']) = inner ++ [')'] := by
    apply trim_eq_self hhead
    rw [List.getLast?_append]
    rfl
  have hblank : isBlank (inner ++ [')']) = false := by
    rw [← Bool.not_eq_true, ← trim_eq_nil_iff, htrim]
    simp
  rw [scan_bracketed, readLevel_open 0 hcloses, Piece.tokens, hblank, if_neg Bool.false_ne_true,
    htrim]
  simp [readGroup, bracketed]

/-- **A group kept as text is read as itself** again, where no group is expanded, exactly if its
parentheses are balanced; otherwise one more closes it.  They are balanced in every text that does
not end with parentheses open inside its last group. -/
theorem tokenize_kept {d : Nat} {text : String} {term : Term}
    (hterm : term ∈ ((Tokenizer.ofMaxDepth d).tokenize text).terms) (hexact : term.exact = false)
    (hhead : term.text.toList.head? = some '(') :
    ((Tokenizer.ofMaxDepth 0).tokenize term.text = [.bare term.text] ↔
        Balanced term.text.toList) ∧
      (¬Balanced term.text.toList →
        (Tokenizer.ofMaxDepth 0).tokenize term.text = [.bare (term.text ++ ")")]) ∧
      ((∀ n, modeAfter text.toList ≠ .group (n + 1)) →
        (Tokenizer.ofMaxDepth 0).tokenize term.text = [.bare term.text]) := by
  have hkept : term.isKept = true := by simp [Term.isKept, hexact, hhead]
  obtain ⟨inner, hinside, htext⟩ := exists_keptInside _ hterm hkept
  have hread : (Tokenizer.ofMaxDepth 0).tokenize term.text = scan 0 (bracketed inner) := by
    rw [← htext]
    rfl
  have hself : String.ofList (bracketed inner) = term.text := by
    rw [← htext, String.ofList_toList]
  have hlonger : String.ofList (bracketed inner ++ [')']) = term.text ++ ")" := by
    rw [String.ofList_append, hself]
  rw [hread, htext, balanced_bracketed_iff hinside.closes]
  refine ⟨⟨fun h => ?_, fun h => ?_⟩, fun h => ?_, fun h => ?_⟩
  · by_contra hopen
    rw [scan_zero_of_not_balanced hinside hopen, hlonger] at h
    have hlength := congrArg String.length (Token.bare.inj (List.cons.inj h).1)
    simp at hlength
  · rw [scan_zero_of_balanced hinside h, hself]
  · rw [scan_zero_of_not_balanced hinside h, hlonger]
  · rw [scan_zero_of_balanced hinside (hinside.balanced h), hself]

/-- A group that holds an unmatched quote, inside a group that the text does not close. -/
theorem tokenize_kept_quote :
    ⟨"(\"c OR (d))", false⟩ ∈ ((Tokenizer.ofMaxDepth 1).tokenize "a (b AND (\"c OR (d) )").terms ∧
      (∀ n, modeAfter "a (b AND (\"c OR (d) )".toList ≠ .group (n + 1)) ∧
      (Tokenizer.ofMaxDepth 0).tokenize "(\"c OR (d))" = [.bare "(\"c OR (d))"] := by
  have hterm : ⟨"(\"c OR (d))", false⟩ ∈
      ((Tokenizer.ofMaxDepth 1).tokenize "a (b AND (\"c OR (d) )").terms := by decide +kernel
  have hend : modeAfter "a (b AND (\"c OR (d) )".toList = .group 0 := by decide +kernel
  have hclosed : ∀ n, modeAfter "a (b AND (\"c OR (d) )".toList ≠ .group (n + 1) := by
    intro n
    rw [hend]
    simp
  exact ⟨hterm, hclosed, (tokenize_kept hterm rfl (by decide)).2.2 hclosed⟩

/-- Not every kept group is read as itself: of two parentheses that the text leaves open, only the
outer one is closed. -/
theorem tokenize_kept_unclosed :
    (Tokenizer.ofMaxDepth 0).tokenize "((a" = [.bare "((a)"] ∧
      (Tokenizer.ofMaxDepth 0).tokenize "((a)" = [.bare "((a))"] ∧
      ¬∀ (d : Nat) (text : String), ∀ term ∈ ((Tokenizer.ofMaxDepth d).tokenize text).terms,
        term.exact = false → term.text.toList.head? = some '(' →
          (Tokenizer.ofMaxDepth 0).tokenize term.text = [.bare term.text] := by
  refine ⟨by decide +kernel, by decide +kernel, fun h => ?_⟩
  exact absurd (h 0 "((a" ⟨"((a)", false⟩ (by decide +kernel) rfl (by decide)) (by decide +kernel)

end BooleanSearch
