import BooleanSearch.Proofs.Content
import BooleanSearch.Proofs.Parentheses

/-!
# Parentheses that reading keeps

Reading closes the groups that a text leaves open and drops those that hold nothing, so what is
read and written again need not have the parentheses of the text.  It never opens more of them,
though, and it never leaves more of them open.

* `NestsWithin` — the two inequalities, kept by joining and bracketing;
* `readGroup`, `readLevel` — how a level reads the text of a group, and its own text;
* `nestsWithin_readGroup`, `nestsWithin_readLevel` — what is read nests within the text;
* `exists_balanced_or`, `piecesFrom_open` — a group ends behind a balanced text or takes all that
  follows.
-/

namespace BooleanSearch

/-! ## Counting parentheses -/

/-- A text opens no more parentheses than another one, and leaves no more of them open. -/
structure NestsWithin (text source : List Char) : Prop where
  opened : text.count '(' ≤ source.count '('
  surplus : text.count '(' + source.count ')' ≤ source.count '(' + text.count ')'

/-- The same number of parentheses of either kind. -/
theorem NestsWithin.of_count_eq {text source : List Char}
    (hopen : text.count '(' = source.count '(') (hclose : text.count ')' = source.count ')') :
    NestsWithin text source where
  opened := hopen.le
  surplus := by omega

theorem NestsWithin.trans {text middle source : List Char} (h : NestsWithin text middle)
    (h' : NestsWithin middle source) : NestsWithin text source where
  opened := h.opened.trans h'.opened
  surplus := by
    have := h.surplus
    have := h'.surplus
    omega

theorem NestsWithin.append {text source text' source' : List Char} (h : NestsWithin text source)
    (h' : NestsWithin text' source') : NestsWithin (text ++ text') (source ++ source') where
  opened := by
    rw [List.count_append, List.count_append]
    exact Nat.add_le_add h.opened h'.opened
  surplus := by
    have := h.surplus
    have := h'.surplus
    simp only [List.count_append]
    omega

/-- If the parts of a text nest within those of another cut of it, the cuts have the same
parentheses on either side. -/
theorem NestsWithin.count_close_eq {text source text' source' : List Char}
    (h : NestsWithin text source) (h' : NestsWithin text' source')
    (heq : text ++ text' = source ++ source') : text.count ')' = source.count ')' := by
  have hopen := congrArg (List.count '(') heq
  have hclose := congrArg (List.count ')') heq
  rw [List.count_append, List.count_append] at hopen hclose
  have := h.opened
  have := h.surplus
  have := h'.opened
  have := h'.surplus
  omega

theorem count_bracketed (text : List Char) :
    (bracketed text).count '(' = text.count '(' + 1 ∧
      (bracketed text).count ')' = text.count ')' + 1 := by
  constructor
  · simp [bracketed]
  · simp [bracketed]

theorem NestsWithin.bracketed {text source : List Char} (h : NestsWithin text source) :
    NestsWithin (bracketed text) (bracketed source) where
  opened := by
    rw [(count_bracketed text).1, (count_bracketed source).1]
    exact Nat.succ_le_succ h.opened
  surplus := by
    have := h.surplus
    have := count_bracketed text
    have := count_bracketed source
    omega

/-- Trimming takes no parentheses. -/
theorem count_trim (text : List Char) :
    (trim text).count '(' = text.count '(' ∧ (trim text).count ')' = text.count ')' := by
  obtain ⟨lead, trail, hlead, htrail, heq⟩ := exists_trim_eq text
  obtain ⟨hlead₁, hlead₂⟩ := count_of_isBlank hlead
  obtain ⟨htrail₁, htrail₂⟩ := count_of_isBlank htrail
  have hopen := congrArg (List.count '(') heq
  have hclose := congrArg (List.count ')') heq
  simp only [List.count_append] at hopen hclose
  omega

theorem nestsWithin_trim (text : List Char) : NestsWithin (trim text) text :=
  .of_count_eq (count_trim text).1 (count_trim text).2

theorem nestsWithin_of_isBlank {text : List Char} (h : isBlank text = true) :
    NestsWithin [] text :=
  .of_count_eq (count_of_isBlank h).1.symm (count_of_isBlank h).2.symm

/-! ## Pieces -/

/-- The parentheses that were opened for a mode: the one in front of a group. -/
def Mode.opened : Mode → Nat
  | .group _ => 1
  | _ => 0

theorem Mode.count_source (mode : Mode) (text : List Char) :
    (mode.piece text).source.count '(' = mode.opened + text.count '(' ∧
      (mode.piece text).source.count ')' = mode.opened + text.count ')' := by
  cases mode with
  | group nesting =>
    rw [Nat.add_comm _ (text.count '('), Nat.add_comm _ (text.count ')')]
    exact count_bracketed text
  | _ => exact ⟨(Nat.zero_add _).symm, (Nat.zero_add _).symm⟩

/-- A border is the parenthesis that opens what follows or closes what was open. -/
theorem Mode.count_border {mode : Mode} {c : Char} (h : mode.isBorder c = true) :
    [c].count '(' = (mode.next c).opened ∧ [c].count ')' = mode.opened := by
  cases mode with
  | bare =>
    obtain rfl | rfl : c = '"' ∨ c = '(' := by simpa [Mode.isBorder] using h
    · decide
    · decide
  | phrase =>
    obtain rfl : c = '"' := by simpa [Mode.isBorder] using h
    decide
  | group nesting =>
    obtain ⟨rfl, rfl⟩ : nesting = 0 ∧ c = ')' := by simpa [Mode.isBorder] using h
    decide

/-- No other character opens or closes a region. -/
theorem Mode.opened_next {mode : Mode} {c : Char} (h : mode.isBorder c = false) :
    (mode.next c).opened = mode.opened := by
  cases mode with
  | bare =>
    obtain ⟨hquote, hopen⟩ : c ≠ '"' ∧ c ≠ '(' := by simpa [Mode.isBorder] using h
    rw [Mode.next, if_neg hquote, if_neg hopen]
  | phrase =>
    have hquote : c ≠ '"' := by simpa [Mode.isBorder] using h
    rw [Mode.next, if_neg hquote]
  | group nesting =>
    cases nesting with
    | zero =>
      have hclose : c ≠ ')' := by simpa [Mode.isBorder] using h
      rw [Mode.next, if_neg hclose]
      split <;> rfl
    | succ n =>
      rw [Mode.next]
      split
      · rfl
      · split <;> rfl

/-- Cutting at borders keeps what was opened, and closes at the end what is still open. -/
theorem regions_count (mode : Mode) (held text : List Char) :
    ((regions mode held text).flatMap Piece.source).count '(' =
        mode.opened + held.count '(' + text.count '(' ∧
      held.count ')' + text.count ')' ≤
        ((regions mode held text).flatMap Piece.source).count ')' := by
  induction text generalizing mode held with
  | nil =>
    have hpiece := mode.count_source held.reverse
    rw [List.count_reverse, List.count_reverse] at hpiece
    rw [regions, List.flatMap_singleton, List.count_nil, List.count_nil]
    omega
  | cons c rest ih =>
    have hsplit : ∀ (text : List Char) (x : Char),
        (c :: text).count x = [c].count x + text.count x := by
      intro text x
      rw [← List.count_append]
      rfl
    rw [hsplit rest, hsplit rest]
    by_cases hborder : mode.isBorder c = true
    · have hpiece := mode.count_source held.reverse
      rw [List.count_reverse, List.count_reverse] at hpiece
      have hopened := Mode.count_border hborder
      have hrest := ih (mode.next c) []
      rw [List.count_nil, List.count_nil] at hrest
      rw [regions_border hborder, List.flatMap_cons, List.count_append, List.count_append]
      omega
    · have hborder : mode.isBorder c = false := eq_false_of_ne_true hborder
      have hrest := ih (mode.next c) (c :: held)
      rw [Mode.opened_next hborder, hsplit held, hsplit held] at hrest
      rw [regions_cons hborder]
      omega

/-- Cutting at operators keeps every parenthesis. -/
theorem Piece.count_cut {x : Char} (hx : isDelimiter x = false) (piece : Piece) :
    (piece.cut.flatMap Piece.source).count x = piece.source.count x := by
  cases piece with
  | bare text =>
    have hkeep : ∀ c, isDelimiter c = true → (c == x) = false := by
      intro c hc
      rw [beq_eq_false_iff_ne]
      rintro rfl
      rw [hc] at hx
      cases hx
    rw [List.count_eq_length_filter, List.count_eq_length_filter, Piece.cut,
      cutOperators_filter hkeep]
    rfl
  | _ => exact congrArg (List.count x) (List.flatMap_singleton ..)

theorem count_flatMap_cut {x : Char} (hx : isDelimiter x = false) (ps : List Piece) :
    ((ps.flatMap Piece.cut).flatMap Piece.source).count x = (ps.flatMap Piece.source).count x := by
  induction ps with
  | nil => rfl
  | cons p ps ih =>
    rw [List.flatMap_cons, List.flatMap_append, List.count_append, Piece.count_cut hx, ih,
      List.flatMap_cons, List.count_append]

/-- The pieces of a text nest within it. -/
theorem nestsWithin_piecesFrom (text : List Char) :
    NestsWithin ((piecesFrom [] text).flatMap Piece.source) text := by
  obtain ⟨hopen, hclose⟩ := regions_count .bare [] text
  rw [← count_flatMap_cut rfl, flatMap_cut_regions] at hopen hclose
  rw [List.count_nil, show Mode.bare.opened = 0 from rfl] at hopen
  rw [List.count_nil] at hclose
  exact ⟨by omega, by omega⟩

/-! ## Levels -/

/-- A written piece nests within the piece if `group` keeps groups within their parentheses. -/
theorem nestsWithin_tokens {group : List Char → Expression}
    (hgroup : ∀ inner, NestsWithin (Expression.written (group inner)) (bracketed inner))
    (piece : Piece) : NestsWithin (Expression.written (piece.tokens group)) piece.source := by
  cases piece with
  | bare text =>
    rw [Piece.tokens]
    split
    · exact nestsWithin_of_isBlank ‹_›
    · rw [Expression.written_singleton, Token.written, String.toList_ofList]
      exact nestsWithin_trim text
  | phrase text =>
    rw [Piece.tokens]
    split
    · exact nestsWithin_of_isBlank ‹_›
    · rw [Expression.written_singleton, Token.written, String.toList_ofList]
      exact .of_count_eq (by simp [Piece.source]) (by simp [Piece.source])
  | group text =>
    rw [Piece.tokens]
    split
    · have hempty : NestsWithin [] ['(', ')'] := ⟨by decide, by decide⟩
      exact hempty.trans (nestsWithin_of_isBlank ‹_›).bracketed
    · exact (hgroup (trim text)).trans (nestsWithin_trim text).bracketed
  | operator op =>
    rw [Piece.tokens, Expression.written_singleton, Token.written]
    exact .of_count_eq (by simp [Piece.source]) (by simp [Piece.source])

/-- What a level is read as nests within the text of the level. -/
theorem nestsWithin_level {group : List Char → Expression}
    (hgroup : ∀ inner, NestsWithin (Expression.written (group inner)) (bracketed inner))
    (text : List Char) :
    NestsWithin (Expression.written ((piecesFrom [] text).flatMap (Piece.tokens group))) text := by
  have hpieces : ∀ ps : List Piece,
      NestsWithin (Expression.written (ps.flatMap (Piece.tokens group)))
        (ps.flatMap Piece.source) := by
    intro ps
    induction ps with
    | nil => exact .of_count_eq rfl rfl
    | cons p ps ih =>
      rw [List.flatMap_cons, List.flatMap_cons, Expression.written_append]
      exact (nestsWithin_tokens hgroup p).append ih
  exact (hpieces _).trans (nestsWithin_piecesFrom text)

/-! ## Groups -/

/-- How a level with `room` below it reads the trimmed text of a group. -/
def readGroup : (room : Nat) → List Char → Expression
  | 0, inner => [.bare (String.ofList (bracketed inner))]
  | room + 1, inner => (scan room inner).asGroup

/-- What a level with `room` below it is read as, behind bare text that is held. -/
def readLevel (room : Nat) (held text : List Char) : Expression :=
  (piecesFrom held text).flatMap (Piece.tokens (readGroup room))

theorem scan_eq (room : Nat) (text : List Char) :
    scan room text = readLevel room [] (' ' :: trim text) := by
  rw [readLevel, ← pieces_eq]
  cases room <;> rfl

/-- A group is read as one token at most. -/
theorem tokens_group_cases (room : Nat) (inner : List Char) :
    (Piece.group inner).tokens (readGroup room) = [] ∨
      ∃ t, (Piece.group inner).tokens (readGroup room) = [t] := by
  rw [Piece.tokens]
  split
  · exact .inl rfl
  · cases room with
    | zero => exact .inr ⟨_, rfl⟩
    | succ room =>
      rw [readGroup]
      cases scan room (trim inner) with
      | nil => exact .inl rfl
      | cons t ts => exact .inr ⟨_, rfl⟩

/-- A group that vanishes held no more than it closed. -/
theorem nestsWithin_asGroup {e : Expression} {inner : List Char}
    (h : NestsWithin (Expression.written e) inner) :
    NestsWithin (Expression.written e.asGroup) (bracketed inner) := by
  cases e with
  | nil =>
    have hempty : NestsWithin [] ['(', ')'] := ⟨by decide, by decide⟩
    exact hempty.trans h.bracketed
  | cons t ts =>
    rw [Expression.asGroup, Expression.written_singleton, Token.written]
    exact ((nestsWithin_trim _).trans h).bracketed

/-- **A group is read within its parentheses**, by induction on the room below it. -/
theorem nestsWithin_readGroup (room : Nat) (inner : List Char) :
    NestsWithin (Expression.written (readGroup room inner)) (bracketed inner) := by
  induction room generalizing inner with
  | zero =>
    rw [readGroup, Expression.written_singleton, Token.written, String.toList_ofList]
    exact .of_count_eq rfl rfl
  | succ room ih =>
    rw [readGroup, scan_eq]
    have hspace : NestsWithin (' ' :: trim inner) (trim inner) :=
      .of_count_eq (by simp) (by simp)
    exact nestsWithin_asGroup
      ((nestsWithin_level ih _).trans (hspace.trans (nestsWithin_trim inner)))

/-- What is read nests within the text. -/
theorem nestsWithin_readLevel (room : Nat) (text : List Char) :
    NestsWithin (Expression.written (readLevel room [] text)) text :=
  nestsWithin_level (nestsWithin_readGroup room) text

/-! ## Where a group ends -/

/-- A text has a balanced front behind which a parenthesis closes, or it closes nothing that it did
not open. -/
theorem exists_balanced_or (text : List Char) :
    (∃ inside rest, Balanced inside ∧ text = inside ++ ')' :: rest) ∨
      ClosesWithin text := by
  induction text using List.reverseRecOn with
  | nil => exact .inr ClosesWithin.nil
  | append_singleton text c ih =>
    obtain ⟨inside, rest, hinside, rfl⟩ | hcloses := ih
    · exact .inl ⟨inside, rest ++ [c], hinside, by simp⟩
    · by_cases hle : (text ++ [c]).count ')' ≤ (text ++ [c]).count '('
      · exact .inr (hcloses.concat hle)
      · -- the last character closes what was not open, so all before it is balanced
        have htext := hcloses text List.prefix_rfl
        rw [List.count_append, List.count_append] at hle
        by_cases hc : c = ')'
        · subst hc
          rw [show [')'].count ')' = 1 from rfl, show [')'].count '(' = 0 from rfl] at hle
          exact .inl ⟨text, [], ⟨hcloses, by omega⟩, rfl⟩
        · rw [List.count_cons_of_ne hc] at hle
          exact absurd (Nat.le_trans htext (Nat.le_add_right _ _)) hle

/-- A group that never ends takes all the text. -/
theorem piecesFrom_open {text : List Char} (h : ClosesWithin text) (held : List Char) :
    piecesFrom held ('(' :: text) = [.bare held.reverse, .group text] := by
  have htotal := h text List.prefix_rfl
  have hrun : regions (.group 0) [] (text ++ []) =
      regions (.group (text.count '(' - text.count ')')) (text.reverse ++ []) [] := by
    refine regions_group (fun front hfront => ?_) (by omega) [] []
    rw [Nat.zero_add]
    exact h front hfront
  rw [List.append_nil, List.append_nil] at hrun
  rw [piecesFrom_border (by decide), show Mode.bare.next '(' = .group 0 from rfl, hrun, regions,
    List.flatMap_singleton, List.reverse_reverse]
  rfl

end BooleanSearch
