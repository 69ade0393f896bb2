import BooleanSearch.Piece
import BooleanSearch.Proofs.Keyword

/-!
# Pieces in two passes

The pass over a level meets borders and operators as they come.  For proofs it is taken apart: a
level is cut at its borders first, and its bare regions at their operators afterwards.  No keyword
holds a quote or a parenthesis, so an operator never crosses the border of a region, and the two
passes make the pieces of the single one.

* `regions`, `cutOperators`, `Piece.cut` — the two passes;
* `piecesFrom` — both of them, for a text in front of which bare text is held;
* `piecesFrom_nil`, `piecesFrom_append`, `piecesFrom_operator`, `piecesFrom_border` — what becomes
  of the end, of a term, of an operator and of a border;
* `regions_phrase` — a phrase is read up to its closing quote;
* `cutPieces_eq` — **the single pass refines the two**, step by step, with `pieces_eq` and
  `pieces_eq_flatMap` for a level.
-/

namespace BooleanSearch

/-! ## The two passes -/

/-- Cuts text at the borders that the automaton meets.  `held` is the text of the current region
so far, latest character first. -/
def regions (mode : Mode) (held : List Char) : List Char → List Piece
  | [] => [mode.piece held.reverse]
  | c :: rest =>
    if mode.isBorder c then mode.piece held.reverse :: regions (mode.next c) [] rest
    else regions (mode.next c) (c :: held) rest

/-- Cuts bare text at its operators, each with one delimiter on either side.  `held` is the text
since the last operator, latest character first, and `passing` counts the characters of that
operator that are still to be passed over. -/
def cutOperators (held : List Char) : (passing : Nat) → List Char → List Piece
  | _, [] => [.bare held.reverse]
  | passing + 1, _ :: rest => cutOperators held passing rest
  | 0, c :: rest =>
    match Operator.leading? (c :: rest) with
    | some op => .bare held.reverse :: .operator op :: cutOperators [] (op.keyword.length + 1) rest
    | none => cutOperators (c :: held) 0 rest

/-- Bare text falls into terms and operators; any other piece stays whole. -/
def Piece.cut : Piece → List Piece
  | .bare text => cutOperators [] 0 text
  | piece => [piece]

/-! ## Steps of the automaton -/

/-- A character that is no border is held. -/
theorem regions_cons {mode : Mode} {c : Char} (h : mode.isBorder c = false)
    (held rest : List Char) :
    regions mode held (c :: rest) = regions (mode.next c) (c :: held) rest := by
  rw [regions, h, if_neg Bool.false_ne_true]

/-- A border ends the region before it. -/
theorem regions_border {mode : Mode} {c : Char} (h : mode.isBorder c = true)
    (held rest : List Char) :
    regions mode held (c :: rest) = mode.piece held.reverse :: regions (mode.next c) [] rest := by
  rw [regions, h, if_pos rfl]

/-! ## The bare text in front -/

/-- A character that stays in bare text. -/
def isPlain (c : Char) : Bool :=
  !Mode.bare.isBorder c

theorem isPlain_eq_true_iff (c : Char) : isPlain c = true ↔ c ≠ '"' ∧ c ≠ '(' := by
  simp [isPlain, Mode.isBorder]

theorem isPlain_of_isDelimiter {c : Char} (h : isDelimiter c = true) : isPlain c = true :=
  (isPlain_eq_true_iff c).2 ⟨(isDelimiter_ne h).1, (isDelimiter_ne h).2.1⟩

theorem isPlain_of_mem_keyword {op : Operator} {c : Char} (h : c ∈ op.keyword.toList) :
    isPlain c = true :=
  (isPlain_eq_true_iff c).2 ⟨(Operator.keyword_ne h).1, (Operator.keyword_ne h).2.1⟩

/-- The regions behind the border in front of a text. -/
def regionsBehind : List Char → List Piece
  | [] => []
  | border :: rest => regions (Mode.bare.next border) [] rest

/-- The first region of bare text goes up to the first border. -/
theorem regions_bare (held text : List Char) :
    regions .bare held text =
      .bare (held.reverse ++ text.takeWhile isPlain) :: regionsBehind (text.dropWhile isPlain) := by
  induction text generalizing held with
  | nil =>
    rw [List.takeWhile_nil, List.append_nil]
    rfl
  | cons c rest ih =>
    by_cases hc : isPlain c = true
    · have hborder : Mode.bare.isBorder c = false := by simpa [isPlain] using hc
      have hnext : Mode.bare.next c = .bare := by
        obtain ⟨h₁, h₂⟩ := (isPlain_eq_true_iff c).1 hc
        rw [Mode.next, if_neg h₁, if_neg h₂]
      rw [regions_cons hborder, hnext, ih, List.takeWhile_cons_of_pos hc,
        List.dropWhile_cons_of_pos hc, List.reverse_cons, List.append_assoc]
      rfl
    · have hborder : Mode.bare.isBorder c = true := by simpa [isPlain] using hc
      rw [regions_border hborder, List.takeWhile_cons_of_neg hc, List.dropWhile_cons_of_neg hc,
        List.append_nil]
      rfl

/-- A quote ends the phrase before it. -/
theorem regions_phrase {text : List Char} (h : '"' ∉ text) (held rest : List Char) :
    regions .phrase held (text ++ '"' :: rest) =
      .phrase (held.reverse ++ text) :: regions .bare [] rest := by
  induction text generalizing held with
  | nil => rw [List.append_nil]; rfl
  | cons c text ih =>
    obtain ⟨hc, htext⟩ : '"' ≠ c ∧ '"' ∉ text := by simpa using h
    have hborder : Mode.phrase.isBorder c = false := by simpa [Mode.isBorder] using Ne.symm hc
    rw [List.cons_append, regions_cons hborder, Mode.next, if_neg (Ne.symm hc), ih htext,
      List.reverse_cons, List.append_assoc]
    rfl

/-! ## Operators in the bare text in front -/

/-- An operator that leads a text lies in the bare text in front of it. -/
theorem Operator.leads_takeWhile (op : Operator) (text : List Char) :
    op.leads (text.takeWhile isPlain) = op.leads text := by
  rw [Bool.eq_iff_iff, Operator.leads_iff, Operator.leads_iff]
  constructor
  · intro h
    obtain ⟨c, d, rest, hc, hd, heq⟩ := h
    refine ⟨c, d, rest ++ text.dropWhile isPlain, hc, hd, ?_⟩
    calc text = text.takeWhile isPlain ++ text.dropWhile isPlain :=
          List.takeWhile_append_dropWhile.symm
      _ = c :: (op.keyword.toList ++ d :: (rest ++ text.dropWhile isPlain)) := by
          rw [heq, List.cons_append, List.append_assoc, List.cons_append]
  · intro h
    obtain ⟨c, d, rest, hc, hd, rfl⟩ := h
    refine ⟨c, d, rest.takeWhile isPlain, hc, hd, ?_⟩
    rw [List.takeWhile_cons_of_pos (isPlain_of_isDelimiter hc),
      List.takeWhile_append_of_pos (fun _ h => isPlain_of_mem_keyword h),
      List.takeWhile_cons_of_pos (isPlain_of_isDelimiter hd)]

theorem Operator.leading?_takeWhile (text : List Char) :
    Operator.leading? (text.takeWhile isPlain) = Operator.leading? text := by
  simp only [Operator.leading?, Operator.leads_takeWhile]

/-- Cutting passes over as many characters as it is told to. -/
theorem cutOperators_pass (held passed rest : List Char) :
    cutOperators held passed.length (passed ++ rest) = cutOperators held 0 rest := by
  induction passed with
  | nil => rfl
  | cons c passed ih => exact ih

/-- Bare text is cut at an operator that leads it. -/
theorem cutOperators_operator {held rest : List Char} {op : Operator} {c d : Char}
    (h : Operator.leading? (c :: (op.keyword.toList ++ d :: rest)) = some op) :
    cutOperators held 0 (c :: (op.keyword.toList ++ d :: rest)) =
      .bare held.reverse :: .operator op :: cutOperators [] 0 rest := by
  have hpass := cutOperators_pass [] (op.keyword.toList ++ [d]) rest
  rw [List.length_append, String.length_toList, List.append_assoc] at hpass
  rw [cutOperators, h]
  exact congrArg (fun tail => Piece.bare held.reverse :: .operator op :: tail) hpass

/-! ## Behind bare text that is held -/

/-- The pieces of a text in front of which bare text without operators is held, latest character
first. -/
def piecesFrom (held text : List Char) : List Piece :=
  cutOperators held 0 (text.takeWhile isPlain) ++
    (regionsBehind (text.dropWhile isPlain)).flatMap Piece.cut

/-- At first nothing is held. -/
theorem flatMap_cut_regions (text : List Char) :
    (regions .bare [] text).flatMap Piece.cut = piecesFrom [] text := by
  rw [regions_bare, List.flatMap_cons]
  rfl

theorem piecesFrom_nil (held : List Char) : piecesFrom held [] = [.bare held.reverse] := by
  rw [piecesFrom, List.takeWhile_nil, List.dropWhile_nil]
  rfl

/-- A character that no operator begins at is held. -/
theorem piecesFrom_cons {held rest : List Char} {c : Char} (hc : isPlain c = true)
    (h : Operator.leading? (c :: rest) = none) :
    piecesFrom held (c :: rest) = piecesFrom (c :: held) rest := by
  rw [← Operator.leading?_takeWhile, List.takeWhile_cons_of_pos hc] at h
  rw [piecesFrom, List.takeWhile_cons_of_pos hc, List.dropWhile_cons_of_pos hc, cutOperators, h]
  rfl

/-- Plain text in which no operator begins is held. -/
theorem piecesFrom_append {text rest : List Char} (hplain : ∀ c ∈ text, isPlain c = true)
    (h : ∀ front c back, text = front ++ c :: back → Operator.leading? (c :: (back ++ rest)) = none)
    (held : List Char) :
    piecesFrom held (text ++ rest) = piecesFrom (text.reverse ++ held) rest := by
  induction text generalizing held with
  | nil => rfl
  | cons c text ih =>
    obtain ⟨hc, htext⟩ := List.forall_mem_cons.1 hplain
    have hbehind : ∀ front x back, text = front ++ x :: back →
        Operator.leading? (x :: (back ++ rest)) = none :=
      fun front x back heq => h (c :: front) x back (by rw [heq]; rfl)
    rw [List.cons_append, piecesFrom_cons hc (h [] c text rfl), ih htext hbehind, List.reverse_cons,
      List.append_assoc]
    rfl

/-- An operator ends what is held and is passed over. -/
theorem piecesFrom_operator {held rest : List Char} {op : Operator} {c d : Char}
    (h : Operator.leading? (c :: (op.keyword.toList ++ d :: rest)) = some op)
    (hc : isDelimiter c = true) (hd : isDelimiter d = true) :
    piecesFrom held (c :: (op.keyword.toList ++ d :: rest)) =
      .bare held.reverse :: .operator op :: piecesFrom [] rest := by
  have htake : (c :: (op.keyword.toList ++ d :: rest)).takeWhile isPlain =
      c :: (op.keyword.toList ++ d :: rest.takeWhile isPlain) := by
    rw [List.takeWhile_cons_of_pos (isPlain_of_isDelimiter hc),
      List.takeWhile_append_of_pos (fun _ h => isPlain_of_mem_keyword h),
      List.takeWhile_cons_of_pos (isPlain_of_isDelimiter hd)]
  have hdrop : (c :: (op.keyword.toList ++ d :: rest)).dropWhile isPlain =
      rest.dropWhile isPlain := by
    rw [List.dropWhile_cons_of_pos (isPlain_of_isDelimiter hc),
      List.dropWhile_append_of_pos (fun _ h => isPlain_of_mem_keyword h),
      List.dropWhile_cons_of_pos (isPlain_of_isDelimiter hd)]
  rw [← Operator.leading?_takeWhile, htake] at h
  rw [piecesFrom, htake, hdrop, cutOperators_operator h]
  rfl

/-- A border ends what is held. -/
theorem piecesFrom_border {held rest : List Char} {border : Char} (h : isPlain border = false) :
    piecesFrom held (border :: rest) =
      .bare held.reverse :: (regions (Mode.bare.next border) [] rest).flatMap Piece.cut := by
  have hborder : ¬isPlain border = true := by simp [h]
  rw [piecesFrom, List.takeWhile_cons_of_neg hborder, List.dropWhile_cons_of_neg hborder]
  rfl

/-- A phrase between quotes is a piece of its own. -/
theorem piecesFrom_phrase {text : List Char} (h : '"' ∉ text) (held rest : List Char) :
    piecesFrom held ('"' :: (text ++ '"' :: rest)) =
      .bare held.reverse :: .phrase text :: piecesFrom [] rest := by
  rw [piecesFrom_border (by decide), show Mode.bare.next '"' = .phrase from rfl, regions_phrase h,
    List.flatMap_cons, flatMap_cut_regions]
  rfl

/-! ## The single pass -/

/-- The pieces of a text that is read in a mode, with the text of the current piece held in front of
it. -/
def piecesIn : (mode : Mode) → (held text : List Char) → List Piece
  | .bare, held, text => piecesFrom held text
  | mode, held, text => (regions mode held text).flatMap Piece.cut

theorem piecesIn_nil (mode : Mode) (held : List Char) :
    piecesIn mode held [] = [mode.piece held.reverse] := by
  cases mode with
  | bare => exact piecesFrom_nil held
  | _ => rfl

/-- A border ends the current piece. -/
theorem piecesIn_border {mode : Mode} {c : Char} (h : mode.isBorder c = true)
    (held rest : List Char) :
    piecesIn mode held (c :: rest) =
      mode.piece held.reverse :: piecesIn (mode.next c) [] rest := by
  cases mode with
  | bare =>
    have hplain : isPlain c = false := by rw [isPlain, h]; rfl
    obtain rfl | rfl : c = '"' ∨ c = '(' := by simpa [Mode.isBorder] using h
    · exact piecesFrom_border hplain
    · exact piecesFrom_border hplain
  | phrase =>
    obtain rfl : c = '"' := by simpa [Mode.isBorder] using h
    show (regions .phrase held ('"' :: rest)).flatMap Piece.cut = _ :: piecesFrom [] rest
    rw [regions_border h, List.flatMap_cons, ← flatMap_cut_regions]
    rfl
  | group nesting =>
    obtain ⟨rfl, rfl⟩ : nesting = 0 ∧ c = ')' := by simpa [Mode.isBorder] using h
    show (regions (.group 0) held (')' :: rest)).flatMap Piece.cut = _ :: piecesFrom [] rest
    rw [regions_border h, List.flatMap_cons, ← flatMap_cut_regions]
    rfl

/-- A character that is no border, and at which no operator begins, is held. -/
theorem piecesIn_cons {mode : Mode} {c : Char} {rest : List Char} (h : mode.isBorder c = false)
    (hop : mode.leading? (c :: rest) = none) (held : List Char) :
    piecesIn mode held (c :: rest) = piecesIn (mode.next c) (c :: held) rest := by
  cases mode with
  | bare =>
    have hplain : isPlain c = true := by rw [isPlain, h]; rfl
    obtain ⟨hquote, hopen⟩ := (isPlain_eq_true_iff c).1 hplain
    rw [Mode.next, if_neg hquote, if_neg hopen]
    exact piecesFrom_cons hplain hop
  | phrase =>
    have hquote : c ≠ '"' := by simpa [Mode.isBorder] using h
    have hnext : Mode.phrase.next c = .phrase := by rw [Mode.next, if_neg hquote]
    rw [hnext]
    show (regions .phrase held (c :: rest)).flatMap Piece.cut =
      (regions .phrase (c :: held) rest).flatMap Piece.cut
    rw [regions_cons h, hnext]
  | group nesting =>
    obtain ⟨nesting', hnext⟩ : ∃ n, (Mode.group nesting).next c = .group n := by
      cases nesting with
      | zero =>
        have hclose : c ≠ ')' := by simpa [Mode.isBorder] using h
        rw [Mode.next, if_neg hclose]
        split
        · exact ⟨_, rfl⟩
        · exact ⟨_, rfl⟩
      | succ n =>
        rw [Mode.next]
        split
        · exact ⟨_, rfl⟩
        · split
          · exact ⟨_, rfl⟩
          · exact ⟨_, rfl⟩
    rw [hnext]
    show (regions (.group nesting) held (c :: rest)).flatMap Piece.cut =
      (regions (.group nesting') (c :: held) rest).flatMap Piece.cut
    rw [regions_cons h, hnext]

/-- An operator in bare text ends the current piece and is passed over. -/
theorem piecesIn_operator {mode : Mode} {text : List Char} {op : Operator}
    (h : mode.leading? text = some op) (held : List Char) :
    piecesIn mode held text =
      mode.piece held.reverse :: .operator op ::
        piecesIn mode [] (text.drop (op.keyword.length + 2)) := by
  cases mode with
  | bare =>
    obtain ⟨c, d, rest, hc, hd, rfl⟩ := Operator.leading?_eq_some h
    have hdrop : (c :: (op.keyword.toList ++ d :: rest)).drop (op.keyword.length + 2) = rest := by
      show (op.keyword.toList ++ d :: rest).drop (op.keyword.length + 1) = rest
      rw [List.append_cons, List.drop_left' (by rw [List.length_append, String.length_toList]; rfl)]
    rw [hdrop]
    exact piecesFrom_operator h hc hd
  | _ => cases h

/-- **The single pass makes the pieces of the two**, whatever is held and is still to be passed. -/
theorem cutPieces_eq (mode : Mode) (held : List Char) (passing : Nat) (text : List Char) :
    cutPieces mode held passing text = piecesIn mode held (text.drop passing) := by
  fun_induction cutPieces mode held passing text with
  | case1 mode held passing => rw [List.drop_nil, piecesIn_nil]
  | case2 mode held passing c rest ih => exact ih
  | case3 mode held c rest op hop ih =>
    rw [List.drop_zero, piecesIn_operator hop, ih]
    rfl
  | case4 mode held c rest hop hborder ih =>
    rw [List.drop_zero, piecesIn_border hborder, ih]
    rfl
  | case5 mode held c rest hop hborder ih =>
    rw [List.drop_zero, piecesIn_cons (eq_false_of_ne_true hborder) hop, ih]
    rfl

theorem pieces_eq (text : List Char) : pieces text = piecesFrom [] (' ' :: trim text) :=
  cutPieces_eq .bare [] 0 _

/-- The pieces of a level: cut at the borders first and at the operators afterwards. -/
theorem pieces_eq_flatMap (text : List Char) :
    pieces text = (regions .bare [] (' ' :: trim text)).flatMap Piece.cut := by
  rw [pieces_eq, flatMap_cut_regions]

end BooleanSearch
