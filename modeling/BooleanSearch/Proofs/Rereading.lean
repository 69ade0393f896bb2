import BooleanSearch.Proofs.Legible

/-!
# Reading the text of a query again

A query is written as text and the text is read again.  The reading gives the query's own
expression exactly if that is legible; every step is an equivalence, so that no legible expression
is lost and no other one is read back.

* `readLevel_operator_iff`, `readLevel_bare_iff`, `readLevel_bracketed_iff` — when one written token
  is read back;
* `readLevel_written_iff`, `scan_trim_written_iff` — when a written level is;
* `scan_trim_written_eq_iff` — the whole tree, by induction on the room that is left;
* `tokenize_text_iff_isLegible` — the statement for a query, with `parse_text_tab_not` for a query
  that is not legible.
-/

namespace BooleanSearch

/-! ## One token -/

/-- Text that an operator leads is read as that operator behind what is held. -/
theorem readLevel_leading {text : List Char} {op : Operator}
    (h : Operator.leading? text = some op) (room : Nat) (held : List Char) :
    ∃ rest, readLevel room held text = heldTokens held ++ .operator op :: rest := by
  obtain ⟨c, d, rest, hc, hd, rfl⟩ := Operator.leading?_eq_some h
  refine ⟨readLevel room [] rest, ?_⟩
  rw [readLevel, piecesFrom_operator h hc hd, List.flatMap_cons, List.flatMap_cons, tokens_held]
  rfl

/-- An operator is read back where no `NOT` makes it a longer one. -/
theorem readLevel_operator_iff (room : Nat) (op : Operator) (ts : Expression) (held : List Char) :
    readLevel room held (Expression.written (.operator op :: ts)) =
        heldTokens held ++ .operator op :: ts ↔
      (op.isNegation = true ∨ Operator.not.leads (' ' :: Expression.written ts) = false) ∧
        readLevel room [] (Expression.written ts) = ts := by
  rw [← Operator.leading?_keyword_iff, Expression.written, Token.written]
  by_cases hlead : Operator.leading?
      (' ' :: (op.keyword.toList ++ ' ' :: Expression.written ts)) = some op
  · rw [readLevel, flatMap_tokens_operator _ hlead, List.append_cancel_left_eq, List.cons_eq_cons]
    exact and_congr_left' (iff_of_true rfl hlead)
  · refine iff_of_false (fun h => ?_) fun h => hlead h.1
    have hop : op.leads (' ' :: (op.keyword.toList ++ ' ' :: Expression.written ts)) = true :=
      (op.leads_iff _).2 ⟨' ', ' ', _, rfl, rfl, rfl⟩
    cases hfound : Operator.leading?
        (' ' :: (op.keyword.toList ++ ' ' :: Expression.written ts)) with
    | none =>
      rw [(Operator.leading?_eq_none_iff _).1 hfound op] at hop
      cases hop
    | some other =>
      obtain ⟨rest, hread⟩ := readLevel_leading hfound room held
      rw [enclosed_append, hread, List.append_cancel_left_eq] at h
      obtain ⟨hother, -⟩ := List.cons.inj h
      rw [hfound, Token.operator.inj hother] at hlead
      exact hlead rfl

/-- Plain text is held up to its end, or up to an operator that begins in it. -/
theorem piecesFrom_append_or {text : List Char} (hplain : ∀ c ∈ text, isPlain c = true)
    (rest held : List Char) :
    Unbroken text.reverse rest ∨ ∃ front op, front <+: text ∧ front ≠ text ∧
      ∃ ps, piecesFrom held (text ++ rest) =
        .bare (front.reverse ++ held).reverse :: .operator op :: ps := by
  induction text generalizing held with
  | nil => exact .inl (Unbroken.nil rest)
  | cons c text ih =>
    obtain ⟨hc, htext⟩ := List.forall_mem_cons.1 hplain
    cases hlead : Operator.leading? (c :: (text ++ rest)) with
    | some op =>
      obtain ⟨c', d, tail, hc', hd, heq⟩ := Operator.leading?_eq_some hlead
      refine .inr ⟨[], op, List.nil_prefix, (List.cons_ne_nil c text).symm, piecesFrom [] tail, ?_⟩
      rw [heq] at hlead
      rw [List.cons_append, heq, piecesFrom_operator hlead hc' hd]
      rfl
    | none =>
      obtain hunbroken | ⟨front, op, hfront, hne, ps, hpieces⟩ := ih htext (c :: held)
      · refine .inl fun front x back heq => ?_
        rw [List.reverse_reverse] at heq
        cases front with
        | nil =>
          obtain ⟨rfl, rfl⟩ := List.cons.inj heq
          exact hlead
        | cons y front =>
          obtain ⟨-, rfl⟩ := List.cons.inj heq
          exact hunbroken front x back (List.reverse_reverse _)
      · refine .inr ⟨c :: front, op, List.cons_prefix_cons.2 ⟨rfl, hfront⟩, ?_, ps, ?_⟩
        · exact fun heq => hne (List.cons.inj heq).2
        · rw [List.cons_append, piecesFrom_cons hc hlead, hpieces, List.reverse_cons,
            List.append_assoc]
          rfl

/-- A term is read back where no operator begins in it. -/
theorem readLevel_bare_iff (room : Nat) {limit level : Nat} {text : String}
    (hshape : BareShape limit level text.toList) (hplain : PlainText text.toList) (rest : List Char)
    (ts : Expression) {held : List Char} (hheld : isBlank held = true) :
    readLevel room held (text.toList ++ rest) = .bare text :: ts ↔
      Unbroken text.toList.reverse rest ∧
        readLevel room (text.toList.reverse ++ held) rest =
          heldTokens (text.toList.reverse ++ held) ++ ts := by
  have hchars : ∀ c ∈ text.toList, isPlain c = true := fun c hc =>
    (isPlain_eq_true_iff c).2
      ⟨fun h => hplain.no_quote (h ▸ hc), fun h => hplain.no_open (h ▸ hc)⟩
  rw [heldTokens_term hshape.ne_nil hshape.head hshape.last hheld, List.singleton_append]
  by_cases hunbroken : Unbroken text.toList.reverse rest
  · have happend : piecesFrom held (text.toList ++ rest) =
        piecesFrom (text.toList.reverse ++ held) rest :=
      piecesFrom_append hchars (fun front c back heq =>
        hunbroken front c back ((List.reverse_reverse _).trans heq)) held
    rw [readLevel, happend]
    exact (and_iff_right hunbroken).symm
  · refine iff_of_false (fun h => ?_) fun h => hunbroken h.1
    -- up to the operator that begins in the term, less than the term is read
    obtain ⟨front, op, hfront, hne, ps, hpieces⟩ :=
      (piecesFrom_append_or hchars rest held).resolve_left hunbroken
    rw [readLevel, hpieces, List.flatMap_cons, List.flatMap_cons, tokens_held, heldTokens] at h
    split at h
    · cases (List.cons.inj h).1
    · obtain ⟨hbare, -⟩ := List.cons.inj h
      have htext : trim (front.reverse ++ held).reverse = text.toList := by
        rw [← Token.bare.inj hbare, String.toList_ofList]
      rw [List.reverse_append, List.reverse_reverse,
        trim_blank_append ((isBlank_reverse held).trans hheld)] at htext
      have hle := (trim_isInfix front).length_le
      rw [htext] at hle
      exact hne (hfront.eq_of_length_le hle)

/-! ## Tokens in parentheses -/

/-- If the token is written in parentheses, its inside is balanced and is read as the token. -/
def Token.ReadsBack (room : Nat) (t : Token) : Prop :=
  ∀ inner, t.written = bracketed inner →
    Balanced inner ∧ (Piece.group inner).tokens (readGroup room) = [t]

theorem Token.readsBack_of_head {room : Nat} {t : Token} (h : t.written.head? ≠ some '(') :
    t.ReadsBack room := by
  intro inner ht
  rw [ht] at h
  exact absurd rfl h

/-- Two cuts of a text in front of a closing parenthesis are the same if as many of them stand
before either. -/
theorem eq_of_count_close {xs ys v w : List Char} (h : xs ++ ')' :: v = ys ++ ')' :: w)
    (hcount : xs.count ')' = ys.count ')') : xs = ys := by
  have hnil : ∀ between u u' : List Char, ')' :: u = between ++ u' → between.count ')' = 0 →
      between = [] := by
    intro between u u' heq hzero
    cases between with
    | nil => rfl
    | cons c between =>
      obtain ⟨rfl, -⟩ := List.cons.inj heq
      simp at hzero
  obtain ⟨between, rfl, heq⟩ | ⟨between, rfl, heq⟩ := List.append_eq_append_iff.1 h
  · rw [List.count_append] at hcount
    rw [hnil between _ _ heq (by omega), List.append_nil]
  · rw [List.count_append] at hcount
    rw [hnil between _ _ heq (by omega), List.append_nil]

/-- What a balanced text in parentheses is read as. -/
theorem readLevel_group (room : Nat) {inner : List Char} (h : Balanced inner)
    (held rest : List Char) :
    readLevel room held ('(' :: (inner ++ ')' :: rest)) =
      heldTokens held ++
        ((Piece.group inner).tokens (readGroup room) ++ readLevel room [] rest) := by
  rw [readLevel, piecesFrom_group h, List.flatMap_cons, List.flatMap_cons, tokens_held]
  rfl

theorem Expression.written_bracketed {t : Token} {inner : List Char}
    (ht : t.written = bracketed inner) (ts : Expression) :
    Expression.written (t :: ts) = '(' :: (inner ++ ')' :: Expression.written ts) := by
  rw [Expression.written, ht, bracketed, enclosed_append]

/-- A token in parentheses is not read back from a group that takes all the text: the end of that
group is read without being there. -/
theorem readLevel_ne_of_open (room : Nat) {t : Token} {inner : List Char}
    (ht : t.written = bracketed inner) {ts : Expression}
    (hopen : ClosesWithin (inner ++ ')' :: Expression.written ts))
    {held : List Char} (hheld : isBlank held = true) :
    readLevel room held (Expression.written (t :: ts)) ≠ t :: ts := by
  intro h
  have hgroup := nestsWithin_tokens (nestsWithin_readGroup room)
    (.group (inner ++ ')' :: Expression.written ts))
  have htext := Expression.written_bracketed ht ts
  rw [htext, readLevel, piecesFrom_open hopen, List.flatMap_cons, List.flatMap_singleton,
    tokens_held, heldTokens_of_isBlank hheld, List.nil_append] at h
  have hsurplus := hgroup.surplus
  rw [h, htext, List.count_cons_self, List.count_cons_of_ne (by decide), Piece.source,
    (count_bracketed _).1, (count_bracketed _).2] at hsurplus
  omega

/-- A token in parentheses that is read back is read from its own inside.  What is read nests within
what it is read from, on either side of the parenthesis that ends the group, so that parenthesis is
the token's. -/
theorem eq_inside_of_readLevel {room : Nat} {t : Token} {inner inside rest : List Char}
    (ht : t.written = bracketed inner) {ts : Expression} (hinside : Balanced inside)
    (hsplit : inner ++ ')' :: Expression.written ts = inside ++ ')' :: rest) {held : List Char}
    (hheld : isBlank held = true)
    (h : readLevel room held (Expression.written (t :: ts)) = t :: ts) :
    inner = inside ∧ (Piece.group inside).tokens (readGroup room) = [t] ∧
      readLevel room [] rest = ts := by
  have hgroup := nestsWithin_tokens (nestsWithin_readGroup room) (.group inside)
  have hrest := nestsWithin_readLevel room rest
  have htext := Expression.written_bracketed ht ts
  rw [htext, hsplit, readLevel_group room hinside, heldTokens_of_isBlank hheld,
    List.nil_append] at h
  obtain hnone | ⟨u, hu⟩ := tokens_group_cases room inside
  · -- nothing is read up to the end of the group, and what follows opens too little
    rw [hnone, List.nil_append] at h
    have hle := hrest.opened
    rw [h, htext, hsplit, List.count_cons_self, List.count_append,
      List.count_cons_of_ne (by decide)] at hle
    omega
  · rw [hu, List.singleton_append] at h
    obtain ⟨rfl, hts⟩ := List.cons.inj h
    rw [hu, Expression.written_singleton, ht] at hgroup
    rw [hts] at hrest
    have hparts : bracketed inner ++ Expression.written ts = bracketed inside ++ rest := by
      rw [bracketed, bracketed, enclosed_append, enclosed_append, hsplit]
    have hcount := hgroup.count_close_eq hrest hparts
    rw [Piece.source, (count_bracketed inner).2, (count_bracketed inside).2] at hcount
    exact ⟨eq_of_count_close hsplit (Nat.succ.inj hcount), hu, hts⟩

/-- **A token in parentheses is read back only as a whole**: its inside has to be balanced. -/
theorem readLevel_bracketed_iff (room : Nat) {t : Token} {inner : List Char}
    (ht : t.written = bracketed inner) (ts : Expression) {held : List Char}
    (hheld : isBlank held = true) :
    readLevel room held (Expression.written (t :: ts)) = t :: ts ↔
      t.ReadsBack room ∧ readLevel room [] (Expression.written ts) = ts := by
  constructor
  · intro h
    obtain ⟨inside, rest, hinside, hsplit⟩ | hopen :=
      exists_balanced_or (inner ++ ')' :: Expression.written ts)
    · obtain ⟨rfl, htokens, hts⟩ := eq_inside_of_readLevel ht hinside hsplit hheld h
      obtain ⟨-, rfl⟩ := List.cons.inj (List.append_cancel_left hsplit)
      refine ⟨fun other hother => ?_, hts⟩
      obtain rfl := bracketed_inj (ht.symm.trans hother)
      exact ⟨hinside, htokens⟩
    · exact absurd h (readLevel_ne_of_open room ht hopen hheld)
  · intro h
    obtain ⟨hback, hts⟩ := h
    obtain ⟨hbalanced, htokens⟩ := hback inner ht
    rw [Expression.written_bracketed ht, readLevel_group room hbalanced,
      heldTokens_of_isBlank hheld, htokens, hts]
    rfl

/-! ## One level -/

theorem Expression.alternates_of_cons {t : Token} {ts : Expression}
    (h : Expression.alternates (t :: ts) = true) : ts.alternates = true := by
  cases ts with
  | nil => rfl
  | cons u rest => exact (Bool.and_eq_true_iff.1 h).2

/-- Behind an operand an operator follows, if anything does. -/
theorem Expression.head_isOperator {t : Token} {ts : Expression}
    (h : Expression.alternates (t :: ts) = true) (ht : t.isOperator = false) :
    ∀ u ∈ ts.head?, u.isOperator = true := by
  cases ts with
  | nil =>
    intro u hu
    cases hu
  | cons u rest =>
    intro v hv
    obtain rfl : u = v := Option.some.inj hv
    simpa [ht] using (Bool.and_eq_true_iff.1 h).1

/-- A term in front of an operator or at the end of a level holds together exactly if it is the
last token or ends in no keyword. -/
theorem unbroken_written_iff {text : List Char} (htext : PlainText text) {ts : Expression}
    (hts : ∀ t ∈ ts.head?, t.isOperator = true) :
    Unbroken text.reverse (Expression.written ts) ↔
      (ts.isEmpty || !endsInKeyword text) = true := by
  cases ts with
  | nil => exact iff_of_true htext.unbroken_nil rfl
  | cons t ts =>
    cases t with
    | operator op =>
      rw [List.isEmpty_cons, Bool.false_or, Bool.not_eq_true']
      exact htext.unbroken_space_iff (op.keyword.toList ++ [' '] ++ Expression.written ts)
    | _ => cases hts _ rfl

/-- **A written level is read back** exactly if keywords are apart and each token in parentheses is
read back.  The invariant is that the held text is blank or an operator follows. -/
theorem readLevel_written_iff (room : Nat) {limit level : Nat} {e : Expression}
    (hshape : Expression.HasShape limit level e) (halt : e.alternates = true) {held : List Char}
    (hheld : isBlank held = true ∨ ∀ t ∈ e.head?, t.isOperator = true) :
    readLevel room held (Expression.written e) = heldTokens held ++ e ↔
      e.keywordsApart = true ∧ ∀ t ∈ e, t.ReadsBack room := by
  induction e generalizing held with
  | nil =>
    refine iff_of_true ?_ ⟨rfl, List.forall_mem_nil _⟩
    rw [Expression.written, readLevel, piecesFrom_nil, List.flatMap_singleton, tokens_held,
      List.append_nil]
  | cons t ts ih =>
    obtain ⟨ht, hts⟩ := hshape
    have halt' := Expression.alternates_of_cons halt
    have hbehind : readLevel room [] (Expression.written ts) = ts ↔
        Expression.keywordsApart ts = true ∧ ∀ u ∈ ts, u.ReadsBack room := ih hts halt' (.inl rfl)
    -- an operand stands behind blank text
    have hblank : t.isOperator = false → isBlank held = true := by
      intro hop
      refine hheld.resolve_right fun h => ?_
      rw [h t rfl] at hop
      cases hop
    rw [List.forall_mem_cons]
    cases t with
    | operator op =>
      have hback : (Token.operator op).ReadsBack room :=
        Token.readsBack_of_head (by simp [Token.written])
      rw [readLevel_operator_iff, hbehind, Expression.keywordsApart, Bool.and_eq_true,
        Bool.or_eq_true, Bool.not_eq_true', and_iff_right hback, and_assoc]
    | phrase text =>
      have hback : (Token.phrase text).ReadsBack room :=
        Token.readsBack_of_head (by simp [Token.written])
      have hread := flatMap_tokens_phrase (readGroup room) ht.no_quote ht.not_blank held
        (Expression.written ts)
      rw [String.ofList_toList] at hread
      rw [Expression.written, Token.written, readLevel, hread, List.append_cancel_left_eq,
        List.cons_eq_cons, and_iff_right rfl, and_iff_right hback]
      exact hbehind
    | group children =>
      rw [heldTokens_of_isBlank (hblank rfl), List.nil_append,
        readLevel_bracketed_iff room rfl ts (hblank rfl), hbehind, Expression.keywordsApart]
      exact and_left_comm
    | bare text =>
      rw [heldTokens_of_isBlank (hblank rfl), List.nil_append, Expression.keywordsApart,
        Bool.and_eq_true]
      obtain ⟨-, inner, -, -, hkept⟩ | hplain := ht.kind
      · have hends : (ts.isEmpty || !endsInKeyword text.toList) = true := by
          rw [hkept, endsInKeyword_bracketed, Bool.not_false, Bool.or_true]
        rw [readLevel_bracketed_iff room (t := .bare text) hkept ts (hblank rfl), hbehind,
          and_iff_right hends]
        exact and_left_comm
      · have hback : (Token.bare text).ReadsBack room := by
          refine Token.readsBack_of_head fun hhead => hplain.no_open ?_
          exact List.mem_of_mem_head? hhead
        have hnext := Expression.head_isOperator halt rfl
        rw [Expression.written, Token.written, readLevel_bare_iff room ht hplain _ _ (hblank rfl),
          ih hts halt' (.inr hnext), unbroken_written_iff hplain hnext, and_iff_right hback,
          and_assoc]

/-- Every operand of a level that has its shape is tight. -/
theorem Expression.operandsTight_of_hasShape {limit level : Nat} {e : Expression}
    (h : Expression.HasShape limit level e) : e.OperandsTight := by
  intro t ht hop
  have hshape := Expression.hasShape_iff.1 h t ht
  cases t with
  | bare text => exact ⟨hshape.ne_nil, hshape.head, hshape.last⟩
  | phrase text => exact isTight_of_enclosed rfl rfl rfl
  | operator op => cases hop
  | group children => exact isTight_of_enclosed rfl rfl rfl

/-- A normal level is read back from its trimmed text exactly if it is legible and each token in
parentheses is read back. -/
theorem scan_trim_written_iff (room : Nat) {limit level : Nat} {e : Expression}
    (hshape : Expression.HasShape limit level e) (hnormal : e.levelIsNormal = true) :
    scan room (trim (Expression.written e)) = e ↔
      e.levelIsLegible = true ∧ ∀ t ∈ e, t.ReadsBack room := by
  have htight := Expression.operandsTight_of_hasShape hshape
  rw [Expression.levelIsNormal, Bool.and_eq_true, Bool.and_eq_true, Bool.and_eq_true] at hnormal
  obtain ⟨⟨⟨-, halt⟩, hclose⟩, -⟩ := hnormal
  have hlevel : ∀ {held}, isBlank held = true →
      (readLevel room held (Expression.written e) = e ↔
        e.keywordsApart = true ∧ ∀ t ∈ e, t.ReadsBack room) := by
    intro held hheld
    rw [← readLevel_written_iff room hshape halt (.inl hheld), heldTokens_of_isBlank hheld,
      List.nil_append]
  rw [scan_eq, trim_trim, Expression.levelIsLegible, Bool.and_eq_true, and_assoc]
  cases e with
  | nil => exact iff_of_true rfl ⟨rfl, rfl, List.forall_mem_nil _⟩
  | cons t ts =>
    by_cases hop : t.isOperator = true
    · have hopens : Expression.opensApart (t :: ts) = true := by
        rw [Expression.opensApart, List.head?_cons, Option.any_some, hop, Bool.true_or]
      cases t with
      | operator op => rw [Expression.cons_trim_written htight hclose, hlevel rfl,
          and_iff_right hopens]
      | _ => cases hop
    · have hop : t.isOperator = false := eq_false_of_ne_true hop
      rw [Expression.trim_written htight hclose hop, Expression.opensApart, List.head?_cons,
        Option.any_some, hop, Bool.false_or, Option.isNone_iff_eq_none]
      cases hlead : Operator.leading? (' ' :: Expression.written (t :: ts)) with
      | none =>
        rw [readLevel, piecesFrom_cons rfl hlead, and_iff_right rfl]
        exact hlevel rfl
      | some op =>
        refine iff_of_false (fun h => ?_) fun h => Option.some_ne_none op h.1
        obtain ⟨rest, hread⟩ := readLevel_leading hlead room []
        rw [hread] at h
        obtain ⟨rfl, -⟩ := List.cons.inj h
        cases hop

/-! ## The tree -/

/-- A kept group is read back exactly if it is balanced. -/
theorem Token.readsBack_bare_iff {room level : Nat} {text : String}
    (h : BareShape (level + room) level text.toList) :
    (Token.bare text).ReadsBack room ↔ (Token.bare text).isLegible = true := by
  rw [Token.isLegible]
  obtain ⟨hroom, inner, hblank, htrim, hkept⟩ | hplain := h.kind
  · obtain rfl : room = 0 := by omega
    have hread : (Piece.group inner).tokens (readGroup 0) = [.bare text] := by
      rw [Piece.tokens, hblank, if_neg Bool.false_ne_true, htrim, readGroup, ← hkept,
        String.ofList_toList]
    rw [hkept, inside?_bracketed, Option.all_some, decide_eq_true_iff]
    constructor
    · intro hback
      exact (hback inner hkept).1
    · intro hbalanced other hother
      obtain rfl := bracketed_inj (hkept.symm.trans hother)
      exact ⟨hbalanced, hread⟩
  · have hhead : text.toList.head? ≠ some '(' :=
      fun hhead => hplain.no_open (List.mem_of_mem_head? hhead)
    have hinside : inside? text.toList = none := by
      rw [inside?]
      intro rest heq
      rw [heq] at hhead
      exact hhead rfl
    rw [hinside]
    exact iff_of_true (Token.readsBack_of_head hhead) rfl

/-- A group is read back exactly if it is balanced and its inside is read back. -/
theorem Token.readsBack_group_iff {room : Nat} {children : Expression} (hne : children ≠ [])
    (hblank : isBlank (Expression.written children) = false) :
    (Token.group children).ReadsBack (room + 1) ↔
      Balanced (trim (Expression.written children)) ∧
        scan room (trim (Expression.written children)) = children := by
  have hread : (Piece.group (trim (Expression.written children))).tokens (readGroup (room + 1)) =
      (scan room (trim (Expression.written children))).asGroup := by
    rw [Piece.tokens, isBlank_trim, hblank, if_neg Bool.false_ne_true, trim_trim, readGroup]
  have hgroup : ∀ e : Expression, e.asGroup = [.group children] ↔ e = children := by
    obtain ⟨t, ts, rfl⟩ := List.exists_cons_of_ne_nil hne
    intro e
    exact (Expression.asGroup_inj : e.asGroup = Expression.asGroup (t :: ts) ↔ e = t :: ts)
  constructor
  · intro hback
    obtain ⟨hbalanced, htokens⟩ := hback _ rfl
    exact ⟨hbalanced, (hgroup _).1 (hread ▸ htokens)⟩
  · intro h other hother
    obtain rfl := bracketed_inj (hother : bracketed _ = _)
    exact ⟨h.1, hread.trans ((hgroup _).2 h.2)⟩

/-- A level is read back exactly if it is legible, provided that this holds of its groups. -/
theorem scan_trim_written_of_groups {room level : Nat} {e : Expression}
    (hshape : Expression.HasShape (level + room) level e) (hnormal : e.levelIsNormal = true)
    (hgroups : ∀ children, .group children ∈ e →
      ((Token.group children).ReadsBack room ↔ (Token.group children).isLegible = true)) :
    scan room (trim (Expression.written e)) = e ↔ e.isLegible = true := by
  rw [scan_trim_written_iff room hshape hnormal, Expression.isLegible, Bool.and_eq_true,
    Expression.tokensAreLegible_iff]
  refine and_congr_right' (forall₂_congr fun t ht => ?_)
  have htshape := Expression.hasShape_iff.1 hshape t ht
  cases t with
  | bare text => exact Token.readsBack_bare_iff htshape
  | phrase text => exact iff_of_true (Token.readsBack_of_head (by simp [Token.written])) rfl
  | operator op => exact iff_of_true (Token.readsBack_of_head (by simp [Token.written])) rfl
  | group children => exact hgroups children ht

/-- **An expression is read back from its text exactly if it is legible**, by induction on the room
that is left below its level. -/
theorem scan_trim_written_eq_iff (room level : Nat) {e : Expression}
    (hshape : Expression.HasShape (level + room) level e) (hnormal : e.isNormalised = true) :
    scan room (trim (Expression.written e)) = e ↔ e.isLegible = true := by
  induction room generalizing level e with
  | zero =>
    refine scan_trim_written_of_groups hshape (Bool.and_eq_true_iff.1 hnormal).1
      fun children hmem => ?_
    exact absurd (Expression.hasShape_iff.1 hshape _ hmem).1 (Nat.lt_irrefl level)
  | succ room ih =>
    obtain ⟨hlevel, hgroups⟩ := Bool.and_eq_true_iff.1 hnormal
    refine scan_trim_written_of_groups hshape hlevel fun children hmem => ?_
    obtain ⟨-, hne, hinner⟩ := Expression.hasShape_iff.1 hshape _ hmem
    have hchildren := (Expression.groupsAreNormal_iff e).1 hgroups _ hmem
    rw [Token.isNormalised, Bool.and_eq_true, Bool.and_eq_true] at hchildren
    obtain ⟨⟨-, hlevel'⟩, hgroups'⟩ := hchildren
    have hclose : Expression.closesWell children = true := by
      rw [Expression.levelIsNormal, Bool.and_eq_true, Bool.and_eq_true] at hlevel'
      exact hlevel'.1.2
    have hblank := Expression.isBlank_written (Expression.operandsTight_of_hasShape hinner) hne
      hclose
    rw [← Nat.succ_add_eq_add_succ] at hinner
    rw [Token.readsBack_group_iff hne hblank,
      ih (level + 1) hinner (Bool.and_eq_true_iff.2 ⟨hlevel', hgroups'⟩), Token.isLegible,
      Bool.and_eq_true, Bool.and_eq_true, decide_eq_true_iff, Expression.isLegible,
      Bool.and_eq_true, and_assoc]

/-! ## Queries -/

/-- Repairing a level keeps the shape of its tokens. -/
theorem Expression.hasShape_repair {limit level : Nat} {e : Expression}
    (h : Expression.HasShape limit level e) : Expression.HasShape limit level e.repair := by
  rw [Expression.hasShape_iff] at h ⊢
  intro t ht
  cases hop : t.isOperator with
  | false => exact h t (Expression.mem_of_mem_repair ht hop)
  | true =>
    cases t with
    | operator op => trivial
    | _ => cases hop

mutual

theorem Token.hasShape_repaired {limit : Nat} (t : Token) {level : Nat}
    (h : t.HasShape limit level) : Expression.HasShape limit level t.repaired := by
  cases t with
  | group children =>
    obtain ⟨hlevel, -, hchildren⟩ := h
    exact Expression.hasShape_asGroup hlevel
      (Expression.hasShape_repair (Expression.hasShape_repairedGroups children hchildren))
  | _ => exact ⟨h, trivial⟩

/-- Repairing the groups of a level keeps the shape of its tokens. -/
theorem Expression.hasShape_repairedGroups {limit : Nat} (e : Expression) {level : Nat}
    (h : Expression.HasShape limit level e) :
    Expression.HasShape limit level (Expression.repairedGroups e) := by
  cases e with
  | nil => trivial
  | cons t ts =>
    have ht := Expression.hasShape_iff.1 (Token.hasShape_repaired t h.1)
    have hts := Expression.hasShape_iff.1 (Expression.hasShape_repairedGroups ts h.2)
    rw [Expression.repairedGroups, Expression.hasShape_iff]
    intro u hu
    exact (List.mem_append.1 hu).elim (ht u) (hts u)

end

/-- The expression of a query has the shape of what is read. -/
theorem Query.hasShape_parse (reader : Tokenizer) (text : String) :
    Expression.HasShape (0 + reader.maxDepth) 0 (Query.parse reader text).expression :=
  Expression.hasShape_repair
    (Expression.hasShape_repairedGroups _ (scan_hasShape reader.maxDepth 0 text.toList))

/-- **Reading the text of a query again.**  The text is read as the query's own expression exactly
if that is legible, and then parsing it gives the same query.  For parsing the condition is enough
and not necessary: what is read may differ from the expression and be repaired to it. -/
theorem tokenize_text_iff_isLegible (reader : Tokenizer) (text : String) :
    (reader.tokenize (Query.parse reader text).text = (Query.parse reader text).expression ↔
        (Query.parse reader text).expression.isLegible = true) ∧
      ((Query.parse reader text).expression.isLegible = true →
        Query.parse reader (Query.parse reader text).text = Query.parse reader text) := by
  have hread : reader.tokenize (Query.parse reader text).text =
        (Query.parse reader text).expression ↔
      (Query.parse reader text).expression.isLegible = true := by
    rw [Tokenizer.tokenize, Query.text, Expression.reconstruct, String.toList_ofList]
    exact scan_trim_written_eq_iff reader.maxDepth 0 (Query.hasShape_parse reader text)
      (Query.parse reader text).normal
  refine ⟨hread, fun hlegible => ?_⟩
  rw [Query.parse, hread.2 hlegible, Query.ofExpression_expression]

-- The parenthesis that closes the group is counted for the one in the phrase.  So it is left in the
-- group, which the end of the text closes, as text, and repair drops it there.
example :
    (Query.parse .default "(\"x(").text = "(\"x(\")" ∧
      (Query.parse .default "(\"x(").expression = [.group [.phrase "x("]] ∧
      Tokenizer.default.tokenize "(\"x(\")" = [.group [.phrase "x(", .bare ")"]] ∧
      Query.parse .default "(\"x(\")" = Query.parse .default "(\"x(" := by
  decide +kernel

/-- An unbalanced phrase outside all groups, nested groups and a negation. -/
theorem tokenize_text_iff_isLegible_nested :
    (Query.parse .default "NOT \"a (b\"  AND ((c)\tOR d) NOT e AND").expression.isLegible = true ∧
      Query.parse .default (Query.parse .default "NOT \"a (b\"  AND ((c)\tOR d) NOT e AND").text =
        Query.parse .default "NOT \"a (b\"  AND ((c)\tOR d) NOT e AND" := by
  have h : (Query.parse .default
      "NOT \"a (b\"  AND ((c)\tOR d) NOT e AND").expression.isLegible = true := by
    decide +kernel
  have hreread := tokenize_text_iff_isLegible .default "NOT \"a (b\"  AND ((c)\tOR d) NOT e AND"
  exact ⟨h, hreread.2 h⟩

/-- Not every query is parsed from its own text: behind a tab `NOT` is part of a term, which joins
the operator in front of it when a space is written instead. -/
theorem parse_text_tab_not :
    (Query.parse .default "a AND\tNOT b").expression =
        [.bare "a", .operator .and, .bare "NOT b"] ∧
      (Query.parse .default "a AND\tNOT b").text = "a AND NOT b" ∧
      (Query.parse .default (Query.parse .default "a AND\tNOT b").text).expression =
        [.bare "a", .operator .andNot, .bare "b"] ∧
      ¬∀ text, Query.parse .default (Query.parse .default text).text =
        Query.parse .default text := by
  refine ⟨by decide +kernel, by decide +kernel, by decide +kernel, fun h => ?_⟩
  exact absurd (h "a AND\tNOT b") (by decide +kernel)

end BooleanSearch
