import BooleanSearch.Tokenizer
import BooleanSearch.Proofs.Canonical

/-!
# Reading a written expression

Reading undoes writing.  A canonical expression is read back as it was, except that groups below
the depth limit stay bare terms in parentheses.

* `Expression.cutBelow` — an expression with the groups below a depth kept as bare terms;
* `piecesFrom_term`, `flatMap_tokens_step` — what the pass does to one written token;
* `flatMap_tokens_piecesFrom` — a written level is read back token by token;
* `scan_trim_written` — the whole tree is read back, by induction on the room that is left;
* `tokenize_reconstruct` — the statement for a reader with its limit.
-/

namespace BooleanSearch

/-! ## Cutting below a depth -/

mutual

/-- The token with its groups below `room` further levels kept as bare terms. -/
def Token.cutBelow : (room : Nat) → Token → Token
  | 0, .group children => .bare ("(" ++ Expression.reconstruct children ++ ")")
  | room + 1, .group children => .group (Expression.cutBelow room children)
  | _, t => t

/-- The expression with its groups below `room` levels kept as bare terms. -/
def Expression.cutBelow (room : Nat) : Expression → Expression
  | [] => []
  | t :: ts => t.cutBelow room :: Expression.cutBelow room ts

end

mutual

theorem Token.cutBelow_eq_self (t : Token) (room : Nat) (h : t.depth ≤ room) :
    t.cutBelow room = t := by
  cases t with
  | group children =>
    cases room with
    | zero => exact absurd h (Nat.not_succ_le_zero _)
    | succ room =>
      rw [Token.cutBelow, Expression.cutBelow_eq_self children room (Nat.le_of_succ_le_succ h)]
  | _ => cases room <;> rfl

/-- Nothing is cut from an expression that nests no deeper than the limit. -/
theorem Expression.cutBelow_eq_self (e : Expression) (room : Nat) (h : Expression.depth e ≤ room) :
    Expression.cutBelow room e = e := by
  cases e with
  | nil => rfl
  | cons t ts =>
    rw [Expression.depth, Nat.max_le] at h
    rw [Expression.cutBelow, Token.cutBelow_eq_self t room h.1,
      Expression.cutBelow_eq_self ts room h.2]

end

mutual

theorem Token.written_cutBelow (t : Token) (room : Nat) :
    (t.cutBelow room).written = t.written := by
  cases t with
  | group children =>
    cases room with
    | zero => simp [Token.cutBelow, Token.written, Expression.reconstruct]
    | succ room =>
      rw [Token.cutBelow, Token.written, Token.written, Expression.written_cutBelow children room]
  | _ => cases room <;> rfl

/-- Cutting does not change how an expression is written. -/
theorem Expression.written_cutBelow (e : Expression) (room : Nat) :
    Expression.written (Expression.cutBelow room e) = Expression.written e := by
  cases e with
  | nil => rfl
  | cons t ts =>
    rw [Expression.cutBelow, Expression.written, Token.written_cutBelow t room,
      Expression.written_cutBelow ts room, Expression.written]

end

/-! ## Reading one level -/

/-- The token of held bare text, if it is not blank. -/
def heldTokens (held : List Char) : Expression :=
  if isBlank held.reverse then [] else [.bare (String.ofList (trim held.reverse))]

theorem tokens_held (group : List Char → Expression) (held : List Char) :
    Piece.tokens group (.bare held.reverse) = heldTokens held := rfl

theorem heldTokens_of_isBlank {held : List Char} (h : isBlank held = true) :
    heldTokens held = [] := by
  rw [heldTokens, isBlank_reverse, h, if_pos rfl]

/-- Trimmed text behind blank text is held as itself. -/
theorem heldTokens_term {text : String} {held : List Char} (hne : text.toList ≠ [])
    (hhead : text.toList.head?.any isDelimiter = false)
    (hlast : text.toList.getLast?.any isDelimiter = false) (hheld : isBlank held = true) :
    heldTokens (text.toList.reverse ++ held) = [.bare text] := by
  have htrim : trim (held.reverse ++ text.toList) = text.toList := by
    rw [trim_blank_append ((isBlank_reverse held).trans hheld), trim_eq_self hhead hlast]
  have hblank : isBlank (held.reverse ++ text.toList) = false := by
    rw [← Bool.not_eq_true, ← trim_eq_nil_iff, htrim]
    exact hne
  rw [heldTokens, List.reverse_append, List.reverse_reverse, hblank, if_neg Bool.false_ne_true,
    htrim, String.ofList_toList]

/-- The characters of a term are held one after another. -/
theorem piecesFrom_term {inside : Bool} {text rest : List Char} (htext : BareText inside text)
    (hrest : AtBoundary rest) (held : List Char) :
    piecesFrom held (text ++ rest) = piecesFrom (text.reverse ++ held) rest := by
  refine piecesFrom_append (fun c hc => ?_) (fun front c back heq => ?_) held
  · exact (isPlain_eq_true_iff c).2
      ⟨fun h => htext.no_quote (h ▸ hc), fun h => htext.no_open (h ▸ hc)⟩
  · exact Operator.leading?_eq_none_of_words (heq ▸ htext.no_keyword) hrest

/-- What a token becomes when it is read back: a group is read by `group`, any other token stays. -/
def Token.readBack (group : List Char → Expression) : Token → Expression
  | .group children => group (trim (Expression.written children))
  | t => [t]

theorem enclosed_append (opening closing : Char) (text rest : List Char) :
    opening :: text ++ [closing] ++ rest = opening :: (text ++ closing :: rest) := by
  rw [List.append_assoc, List.cons_append, List.singleton_append]

/-- A phrase in quotes ends what is held and is read as a phrase. -/
theorem flatMap_tokens_phrase (group : List Char → Expression) {text : List Char}
    (hquote : '"' ∉ text) (hblank : isBlank text = false) (held rest : List Char) :
    (piecesFrom held ('"' :: text ++ ['"'] ++ rest)).flatMap (Piece.tokens group) =
      heldTokens held ++ (.phrase (String.ofList text) ::
        (piecesFrom [] rest).flatMap (Piece.tokens group)) := by
  rw [enclosed_append, piecesFrom_phrase hquote, List.flatMap_cons, List.flatMap_cons, tokens_held,
    Piece.tokens, hblank, if_neg Bool.false_ne_true]
  rfl

/-- An operator ends what is held, unless `NOT` behind it makes a longer one. -/
theorem flatMap_tokens_operator (group : List Char → Expression) {op : Operator} {rest : List Char}
    (hlead : Operator.leading? (' ' :: (op.keyword.toList ++ ' ' :: rest)) = some op)
    (held : List Char) :
    (piecesFrom held (' ' :: op.keyword.toList ++ [' '] ++ rest)).flatMap (Piece.tokens group) =
      heldTokens held ++ (.operator op :: (piecesFrom [] rest).flatMap (Piece.tokens group)) := by
  rw [enclosed_append, piecesFrom_operator hlead rfl rfl, List.flatMap_cons, List.flatMap_cons,
    tokens_held]
  rfl

/-- A balanced text in parentheses ends what is held and is read as a group. -/
theorem flatMap_tokens_group (group : List Char → Expression) {text : List Char}
    (hbalanced : Balanced text) (hblank : isBlank text = false) (held rest : List Char) :
    (piecesFrom held ('(' :: text ++ [')'] ++ rest)).flatMap (Piece.tokens group) =
      heldTokens held ++
        (group (trim text) ++ (piecesFrom [] rest).flatMap (Piece.tokens group)) := by
  rw [enclosed_append, piecesFrom_group hbalanced, List.flatMap_cons, List.flatMap_cons,
    tokens_held, Piece.tokens, hblank, if_neg Bool.false_ne_true]

/-- **One step**: a phrase, an operator or a group ends what is held and is read back, and behind
it nothing is held. -/
theorem flatMap_tokens_step (group : List Char → Expression) {inside : Bool} {t : Token}
    (ht : t.isCanonical inside = true) (hbare : t.isBare = false) {rest : List Char}
    (hnot : Operator.not.leads (' ' :: rest) = false) (held : List Char) :
    (piecesFrom held (t.written ++ rest)).flatMap (Piece.tokens group) =
      heldTokens held ++
        (t.readBack group ++ (piecesFrom [] rest).flatMap (Piece.tokens group)) := by
  cases t with
  | bare text => cases hbare
  | phrase text =>
    have htext : PhraseText inside text.toList := of_decide_eq_true ht
    rw [Token.written, flatMap_tokens_phrase group htext.no_quote htext.not_blank,
      String.ofList_toList]
    rfl
  | operator op =>
    have hlead := Operator.leading?_keyword op (c := ' ') rfl rfl fun _ => hnot
    rw [Token.written, flatMap_tokens_operator group hlead]
    rfl
  | group children =>
    obtain ⟨hne, hlevel, hchildren⟩ := Token.isCanonical_group.1 ht
    have hclose : Expression.closesWell children = true := (Bool.and_eq_true_iff.1 hlevel).2
    have hblank : isBlank (trim (Expression.written children)) = false := by
      rw [isBlank_trim, Expression.isBlank_written
        (Expression.operandsTight_of_canonical hchildren) hne hclose]
    have hbalanced := (Expression.balanced_written children hchildren).trim
    rw [Token.written, flatMap_tokens_group group hbalanced hblank, trim_trim]
    rfl

/-- **A written level is read back token by token.**  The invariant is that the held text is blank
or no bare term follows, so that nothing runs into a term. -/
theorem flatMap_tokens_piecesFrom (group : List Char → Expression) {inside : Bool}
    {e : Expression} (hcanon : Expression.tokensAreCanonical inside e = true)
    (hapart : e.termsApart = true) {held : List Char}
    (hheld : isBlank held = true ∨ ∀ t ∈ e.head?, t.isBare = false) :
    (piecesFrom held (Expression.written e)).flatMap (Piece.tokens group) =
      heldTokens held ++ e.flatMap (Token.readBack group) := by
  induction e generalizing held with
  | nil =>
    rw [Expression.written, piecesFrom_nil, List.flatMap_singleton, tokens_held, List.flatMap_nil,
      List.append_nil]
  | cons t ts ih =>
    obtain ⟨ht, hts⟩ := Expression.tokensAreCanonical_cons.1 hcanon
    have hapart' := Expression.termsApart_of_cons hapart
    rw [Expression.written, List.flatMap_cons]
    cases hbare : t.isBare with
    | true =>
      cases t with
      | bare text =>
        have htext : BareText inside text.toList := of_decide_eq_true ht
        have hblank : isBlank held = true := hheld.resolve_right fun h => by cases h _ rfl
        have hnext := Expression.head_not_bare hapart
        rw [Token.written, piecesFrom_term htext (Expression.atBoundary_written hnext),
          ih hts hapart' (.inr hnext), heldTokens_term htext.ne_nil htext.head htext.last hblank,
          heldTokens_of_isBlank hblank]
        rfl
      | _ => cases hbare
    | false =>
      have hnone := Operator.leading?_eq_none (c := ' ') (Expression.firstWord_written hts hapart')
      have hnot := (Operator.leading?_eq_none_iff _).1 hnone .not
      rw [flatMap_tokens_step group ht hbare hnot, ih hts hapart' (.inl rfl)]
      rfl

/-- The pieces of a written level are read back, whether or not an operator opens it. -/
theorem flatMap_tokens_pieces (group : List Char → Expression) {inside : Bool} {e : Expression}
    (hcanon : Expression.tokensAreCanonical inside e = true)
    (hlevel : e.levelIsCanonical = true) :
    (pieces (trim (Expression.written e))).flatMap (Piece.tokens group) =
      e.flatMap (Token.readBack group) := by
  obtain ⟨hapart, hclose⟩ := Bool.and_eq_true_iff.1 hlevel
  have htight := Expression.operandsTight_of_canonical hcanon
  rw [pieces_eq, trim_trim]
  cases e with
  | nil => rfl
  | cons t ts =>
    by_cases hop : t.isOperator = true
    · cases t with
      | operator op =>
        rw [Expression.cons_trim_written htight hclose]
        exact flatMap_tokens_piecesFrom group hcanon hapart (.inl rfl)
      | _ => cases hop
    · have hop : t.isOperator = false := eq_false_of_ne_true hop
      have hnone := Operator.leading?_eq_none (c := ' ')
        (Expression.firstWord_written hcanon hapart)
      rw [Expression.trim_written htight hclose hop, piecesFrom_cons rfl hnone]
      exact flatMap_tokens_piecesFrom group hcanon hapart (.inl rfl)

/-! ## Reading the tree -/

theorem Expression.cutBelow_ne_nil {e : Expression} (h : e ≠ []) (room : Nat) :
    Expression.cutBelow room e ≠ [] := by
  cases e with
  | nil => exact absurd rfl h
  | cons t ts => exact List.cons_ne_nil _ _

theorem Expression.asGroup_of_ne_nil {e : Expression} (h : e ≠ []) : e.asGroup = [.group e] := by
  cases e with
  | nil => exact absurd rfl h
  | cons t ts => rfl

theorem ofList_bracketed (text : List Char) :
    String.ofList (bracketed text) = "(" ++ String.ofList text ++ ")" := by
  apply String.toList_inj.1
  simp [bracketed]

/-- Where each token is read back as its cut form, so is the level. -/
theorem Expression.flatMap_readBack {group : List Char → Expression} {room : Nat} {inside : Bool}
    {e : Expression} (hcanon : Expression.tokensAreCanonical inside e = true)
    (hgroup : ∀ children, (Token.group children).isCanonical inside = true →
      group (trim (Expression.written children)) = [(Token.group children).cutBelow room]) :
    e.flatMap (Token.readBack group) = Expression.cutBelow room e := by
  induction e with
  | nil => rfl
  | cons t ts ih =>
    obtain ⟨ht, hts⟩ := Expression.tokensAreCanonical_cons.1 hcanon
    rw [List.flatMap_cons, ih hts, Expression.cutBelow]
    cases t with
    | group children => rw [Token.readBack, hgroup children ht]; rfl
    | _ => cases room <;> rfl

/-- **Reading undoes writing**, down to the room that is left. -/
theorem scan_trim_written (room : Nat) {inside : Bool} {e : Expression}
    (hcanon : Expression.tokensAreCanonical inside e = true)
    (hlevel : e.levelIsCanonical = true) :
    scan room (trim (Expression.written e)) = Expression.cutBelow room e := by
  induction room generalizing inside e with
  | zero =>
    rw [scan, flatMap_tokens_pieces _ hcanon hlevel]
    refine Expression.flatMap_readBack hcanon fun children _ => ?_
    rw [Token.cutBelow, ofList_bracketed]
    rfl
  | succ room ih =>
    rw [scan, flatMap_tokens_pieces _ hcanon hlevel]
    refine Expression.flatMap_readBack hcanon fun children hchildren => ?_
    obtain ⟨hne, hlevel, hcanon⟩ := Token.isCanonical_group.1 hchildren
    rw [ih hcanon hlevel, Expression.asGroup_of_ne_nil (Expression.cutBelow_ne_nil hne room),
      Token.cutBelow]

/-- Canonical expressions that are written in the same way are equal: both are what reading with
room for the deeper of them gives. -/
theorem Expression.eq_of_reconstruct_eq {e e' : Expression} (h : e.isCanonical = true)
    (h' : e'.isCanonical = true) (heq : e.reconstruct = e'.reconstruct) : e = e' := by
  obtain ⟨hlevel, hcanon⟩ := Bool.and_eq_true_iff.1 h
  obtain ⟨hlevel', hcanon'⟩ := Bool.and_eq_true_iff.1 h'
  have htext : trim (Expression.written e) = trim (Expression.written e') := String.ofList_inj.1 heq
  calc e = Expression.cutBelow (max e.depth e'.depth) e :=
        (Expression.cutBelow_eq_self e _ (Nat.le_max_left ..)).symm
    _ = Expression.cutBelow (max e.depth e'.depth) e' := by
        rw [← scan_trim_written _ hcanon hlevel, htext, scan_trim_written _ hcanon' hlevel']
    _ = e' := Expression.cutBelow_eq_self e' _ (Nat.le_max_right ..)

/-- **Reading the written form of a canonical expression** gives the expression with its groups
below the limit kept as bare terms.  It is the expression itself if that nests no deeper than the
limit, it is written in the same way in any case, and no other canonical expression is. -/
theorem tokenize_reconstruct {e : Expression} (h : e.isCanonical = true) {d : Nat} (hd : d ≤ 256) :
    (Tokenizer.ofMaxDepth d).tokenize e.reconstruct = e.cutBelow d ∧
      (e.depth ≤ d → (Tokenizer.ofMaxDepth d).tokenize e.reconstruct = e) ∧
      ((Tokenizer.ofMaxDepth d).tokenize e.reconstruct).reconstruct = e.reconstruct ∧
      ∀ e' : Expression, e'.isCanonical = true → e'.reconstruct = e.reconstruct → e' = e := by
  obtain ⟨hlevel, hcanon⟩ := Bool.and_eq_true_iff.1 h
  have hlimit : (Tokenizer.ofMaxDepth d).maxDepth = d := Nat.min_eq_left hd
  have hread : (Tokenizer.ofMaxDepth d).tokenize e.reconstruct = e.cutBelow d := by
    rw [Tokenizer.tokenize, hlimit, Expression.reconstruct, String.toList_ofList,
      scan_trim_written d hcanon hlevel]
  refine ⟨hread, fun hdepth => ?_, ?_, fun e' h' heq => Expression.eq_of_reconstruct_eq h' h heq⟩
  · rw [hread, Expression.cutBelow_eq_self e d hdepth]
  · rw [hread, Expression.reconstruct, Expression.written_cutBelow e d, Expression.reconstruct]

/-- A run of operators in front, phrases and groups side by side, and a group below the limit. -/
theorem tokenize_reconstruct_nested :
    Expression.isCanonical [.operator .and, .operator .not, .bare "a) b", .phrase " AND ",
        .group [.operator .or, .phrase "(x)", .group [.bare "c"]]] = true ∧
      (Tokenizer.ofMaxDepth 1).tokenize
        (Expression.reconstruct [.operator .and, .operator .not, .bare "a) b", .phrase " AND ",
          .group [.operator .or, .phrase "(x)", .group [.bare "c"]]]) =
        [.operator .and, .operator .not, .bare "a) b", .phrase " AND ",
          .group [.operator .or, .phrase "(x)", .bare "(c)"]] := by
  have h : Expression.isCanonical [.operator .and, .operator .not, .bare "a) b", .phrase " AND ",
      .group [.operator .or, .phrase "(x)", .group [.bare "c"]]] = true := by decide +kernel
  exact ⟨h, (tokenize_reconstruct h (by decide)).1.trans (by decide +kernel)⟩

end BooleanSearch
