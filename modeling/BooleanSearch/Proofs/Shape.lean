import BooleanSearch.Tokenizer
import BooleanSearch.Proofs.Scanning

/-!
# The shape of what is read

Whatever the text, an expression that a reader gives has no empty group, no blank leaf and no term
in which a border or an operator went unnoticed.

* `PlainText`, `KeptGroup` — the two kinds of bare terms: text in which nothing is a border or an
  operator, and a group below the depth limit;
* `Expression.HasShape` — the conditions on all tokens, each with the level at which it stands;
* `regions_isRegion`, `cutOperators_hasShape` — what the two passes over a level keep true;
* `scan_hasShape` — the tree has the shape, by induction on the room for groups;
* `Expression.depth_le_of_hasShape` — such a tree nests no deeper than the limit;
* `tokenize_hasShape` — the statement for a reader with its limit.
-/

namespace BooleanSearch

/-! ## The conditions -/

/-- Bare text that holds no border, and nowhere in it an operator's keyword between two
delimiters. -/
structure PlainText (text : List Char) : Prop where
  no_quote : '"' ∉ text
  no_open : '(' ∉ text
  no_operator : ∀ (op : Operator) (c d : Char), isDelimiter c = true → isDelimiter d = true →
    ¬c :: (op.keyword.toList ++ [d]) <:+: text

/-- A group that was kept as text: trimmed text that is not blank, in parentheses. -/
def KeptGroup (text : List Char) : Prop :=
  ∃ inner, isBlank inner = false ∧ trim inner = inner ∧ text = bracketed inner

/-- The text of a bare term at a level under a depth limit. -/
structure BareShape (limit level : Nat) (text : List Char) : Prop where
  ne_nil : text ≠ []
  head : text.head?.any isDelimiter = false
  last : text.getLast?.any isDelimiter = false
  kind : level = limit ∧ KeptGroup text ∨ PlainText text

/-- The text of a phrase. -/
structure PhraseShape (text : List Char) : Prop where
  no_quote : '"' ∉ text
  not_blank : isBlank text = false

mutual

/-- The shape of one token at a level.  A group stands above the limit and is not empty. -/
def Token.HasShape (limit : Nat) : (level : Nat) → Token → Prop
  | level, .bare text => BareShape limit level text.toList
  | _, .phrase text => PhraseShape text.toList
  | _, .operator _ => True
  | level, .group children =>
    level < limit ∧ children ≠ [] ∧ Expression.HasShape limit (level + 1) children

/-- The shape of every token of an expression that stands at a level. -/
def Expression.HasShape (limit : Nat) : (level : Nat) → Expression → Prop
  | _, [] => True
  | level, t :: ts => t.HasShape limit level ∧ Expression.HasShape limit level ts

end

theorem Expression.hasShape_iff {limit level : Nat} {e : Expression} :
    Expression.HasShape limit level e ↔ ∀ t ∈ e, t.HasShape limit level := by
  induction e with
  | nil => exact iff_of_true trivial nofun
  | cons t ts ih => rw [Expression.HasShape, ih, List.forall_mem_cons]

/-- Part of a plain text is plain. -/
theorem PlainText.of_part {part text : List Char} (h : PlainText text) (hpart : part <:+: text) :
    PlainText part where
  no_quote hquote := h.no_quote (hpart.subset hquote)
  no_open hopen := h.no_open (hpart.subset hopen)
  no_operator op c d hc hd hop := h.no_operator op c d hc hd (hop.trans hpart)

theorem trim_isInfix (text : List Char) : trim text <:+: text := by
  obtain ⟨lead, trail, -, -, heq⟩ := exists_trim_eq text
  exact ⟨lead, trail, heq.symm⟩

/-! ## Cutting at borders -/

/-- What cutting at borders leaves in a piece. -/
def Piece.IsRegion : Piece → Prop
  | .bare text => ∀ c ∈ text, isPlain c = true
  | .phrase text => '"' ∉ text
  | .group _ | .operator _ => True

/-- One character that is no border keeps the region as it has to be. -/
theorem Mode.isRegion_step {mode : Mode} {c : Char} {held : List Char}
    (hborder : mode.isBorder c = false) (h : (mode.piece held.reverse).IsRegion) :
    ((mode.next c).piece (c :: held).reverse).IsRegion := by
  cases mode with
  | bare =>
    have hc : isPlain c = true := by simp [isPlain, hborder]
    obtain ⟨hquote, hopen⟩ := (isPlain_eq_true_iff c).1 hc
    rw [show Mode.bare.next c = .bare by simp [Mode.next, hquote, hopen]]
    intro x hx
    rw [List.mem_reverse, List.mem_cons] at hx
    obtain rfl | hx := hx
    · exact hc
    · exact h x (List.mem_reverse.2 hx)
  | phrase =>
    have hc : c ≠ '"' := by simpa [Mode.isBorder] using hborder
    rw [show Mode.phrase.next c = .phrase by simp [Mode.next, hc]]
    intro hquote
    rw [List.mem_reverse, List.mem_cons] at hquote
    obtain hquote | hquote := hquote
    · exact hc hquote.symm
    · exact h (List.mem_reverse.2 hquote)
  | group nesting =>
    obtain ⟨n, hn⟩ : ∃ n, (Mode.group nesting).next c = .group n := by
      cases nesting with
      | zero =>
        have hc : c ≠ ')' := by simpa [Mode.isBorder] using hborder
        by_cases hopen : c = '('
        · exact ⟨1, by simp [Mode.next, hopen]⟩
        · exact ⟨0, by simp [Mode.next, hopen, hc]⟩
      | succ n =>
        by_cases hopen : c = '('
        · exact ⟨n + 2, by simp [Mode.next, hopen]⟩
        · by_cases hclose : c = ')'
          · exact ⟨n, by simp [Mode.next, hclose]⟩
          · exact ⟨n + 1, by simp [Mode.next, hopen, hclose]⟩
    rw [hn]
    trivial

/-- A mode in which nothing is held yet. -/
theorem Mode.isRegion_nil (mode : Mode) : (mode.piece []).IsRegion := by
  cases mode with
  | bare => exact nofun
  | phrase => exact nofun
  | group nesting => trivial

/-- **Cutting at borders** leaves no border in bare text and no quote in a phrase. -/
theorem regions_isRegion {mode : Mode} {held : List Char} (text : List Char)
    (h : (mode.piece held.reverse).IsRegion) :
    ∀ piece ∈ regions mode held text, piece.IsRegion := by
  induction text generalizing mode held with
  | nil =>
    intro piece hpiece
    obtain rfl := List.mem_singleton.1 hpiece
    exact h
  | cons c rest ih =>
    by_cases hborder : mode.isBorder c = true
    · rw [regions_border hborder]
      intro piece hpiece
      obtain rfl | hpiece := List.mem_cons.1 hpiece
      · exact h
      · exact ih (Mode.isRegion_nil _) piece hpiece
    · rw [regions_cons (eq_false_of_ne_true hborder)]
      exact ih (Mode.isRegion_step (eq_false_of_ne_true hborder) h)

/-! ## Cutting at operators -/

/-- No operator begins in the held text, also if it goes on into the text that follows. -/
def Unbroken (held text : List Char) : Prop :=
  ∀ front c back, held.reverse = front ++ c :: back →
    Operator.leading? (c :: (back ++ text)) = none

theorem Unbroken.nil (text : List Char) : Unbroken [] text := by
  intro front c back heq
  exact absurd heq.symm (by simp)

/-- A character that no operator begins at may be held. -/
theorem Unbroken.cons {held rest : List Char} {c : Char} (h : Unbroken held (c :: rest))
    (hc : Operator.leading? (c :: rest) = none) : Unbroken (c :: held) rest := by
  intro front x back heq
  rw [List.reverse_cons] at heq
  obtain rfl | ⟨back, last, rfl⟩ := List.eq_nil_or_concat' back
  · obtain ⟨-, hx⟩ := List.append_inj' heq rfl
    obtain rfl : c = x := List.head_eq_of_cons_eq hx
    exact hc
  · have heq' : held.reverse ++ [c] = (front ++ x :: back) ++ [last] := by simp [heq]
    obtain ⟨hheld, hlast⟩ := List.append_inj' heq' rfl
    obtain rfl : c = last := List.head_eq_of_cons_eq hlast
    have hnone := h front x back hheld
    rw [List.append_assoc]
    exact hnone

/-- An operator in front of a text is in front of it whatever follows. -/
theorem Operator.leads_append {op : Operator} {text : List Char} (h : op.leads text = true)
    (rest : List Char) : op.leads (text ++ rest) = true := by
  obtain ⟨c, d, tail, hc, hd, rfl⟩ := (op.leads_iff text).1 h
  exact (op.leads_iff _).2 ⟨c, d, tail ++ rest, hc, hd, by simp⟩

/-- Where no operator begins, none is part of the text. -/
theorem Unbroken.no_operator {held text : List Char} (h : Unbroken held text) (op : Operator)
    (c d : Char) (hc : isDelimiter c = true) (hd : isDelimiter d = true) :
    ¬c :: (op.keyword.toList ++ [d]) <:+: held.reverse := by
  intro hop
  obtain ⟨front, back, heq⟩ := hop
  have hleads : op.leads (c :: (op.keyword.toList ++ [d] ++ back)) = true :=
    (op.leads_iff _).2 ⟨c, d, back, hc, hd, by simp⟩
  have hnone := h front c (op.keyword.toList ++ [d] ++ back) (by simp [← heq])
  have hfalse := (Operator.leading?_eq_none_iff _).1 hnone op
  rw [← List.cons_append, Operator.leads_append hleads text] at hfalse
  cases hfalse

/-- The shape of a piece: bare text is plain, a phrase holds no quote. -/
def Piece.HasShape : Piece → Prop
  | .bare text => PlainText text
  | .phrase text => '"' ∉ text
  | .group _ | .operator _ => True

theorem Unbroken.plainText {held text : List Char} (h : Unbroken held text)
    (hplain : ∀ c ∈ held, isPlain c = true) : PlainText held.reverse where
  no_quote hquote := ((isPlain_eq_true_iff _).1 (hplain _ (List.mem_reverse.1 hquote))).1 rfl
  no_open hopen := ((isPlain_eq_true_iff _).1 (hplain _ (List.mem_reverse.1 hopen))).2 rfl
  no_operator := h.no_operator

/-- **Cutting at operators** leaves plain text between them.  The invariant is that no operator
begins in what is held. -/
theorem cutOperators_hasShape {held : List Char} {passing : Nat} {text : List Char}
    (hheld : ∀ c ∈ held, isPlain c = true) (htext : ∀ c ∈ text, isPlain c = true)
    (hunbroken : Unbroken held (text.drop passing)) :
    ∀ piece ∈ cutOperators held passing text, piece.HasShape := by
  fun_induction cutOperators held passing text with
  | case1 held passing =>
    intro piece hpiece
    obtain rfl := List.mem_singleton.1 hpiece
    exact hunbroken.plainText hheld
  | case2 held passing c rest ih =>
    exact ih hheld (fun x hx => htext x (List.mem_cons_of_mem c hx)) hunbroken
  | case3 held c rest op hop ih =>
    intro piece hpiece
    obtain rfl | hpiece := List.mem_cons.1 hpiece
    · exact hunbroken.plainText hheld
    obtain rfl | hpiece := List.mem_cons.1 hpiece
    · trivial
    · exact ih nofun (fun x hx => htext x (List.mem_cons_of_mem c hx)) (Unbroken.nil _) piece hpiece
  | case4 held c rest hop ih =>
    refine ih ?_ (fun x hx => htext x (List.mem_cons_of_mem c hx)) (hunbroken.cons hop)
    intro x hx
    obtain rfl | hx := List.mem_cons.1 hx
    · exact htext x List.mem_cons_self
    · exact hheld x hx

theorem Piece.hasShape_cut {piece : Piece} (h : piece.IsRegion) :
    ∀ part ∈ piece.cut, part.HasShape := by
  cases piece with
  | bare text => exact cutOperators_hasShape nofun h (Unbroken.nil _)
  | phrase text =>
    intro part hpart
    obtain rfl := List.mem_singleton.1 hpart
    exact h
  | group text | operator op =>
    intro part hpart
    obtain rfl := List.mem_singleton.1 hpart
    trivial

/-- The pieces of a level have their shape. -/
theorem pieces_hasShape (text : List Char) : ∀ piece ∈ pieces text, piece.HasShape := by
  intro piece hpiece
  rw [pieces_eq_flatMap] at hpiece
  obtain ⟨region, hregion, hpiece⟩ := List.mem_flatMap.1 hpiece
  have hplain := regions_isRegion _ (Mode.isRegion_nil .bare) region hregion
  exact Piece.hasShape_cut hplain piece hpiece

/-! ## The tree -/

/-- The tokens of a piece have their shape if `group` gives such tokens. -/
theorem Piece.hasShape_tokens {limit level : Nat} {group : List Char → Expression} {piece : Piece}
    (h : piece.HasShape)
    (hgroup : ∀ inner, isBlank inner = false → trim inner = inner →
      Expression.HasShape limit level (group inner)) :
    Expression.HasShape limit level (piece.tokens group) := by
  cases piece with
  | bare text =>
    rw [Piece.tokens]
    split
    · trivial
    · rename_i hblank
      refine ⟨?_, trivial⟩
      rw [Token.HasShape, String.toList_ofList]
      exact
        { ne_nil := mt (trim_eq_nil_iff text).1 hblank
          head := head?_trim text
          last := getLast?_trim text
          kind := .inr (h.of_part (trim_isInfix text)) }
  | phrase text =>
    rw [Piece.tokens]
    split
    · trivial
    · rename_i hblank
      refine ⟨?_, trivial⟩
      rw [Token.HasShape, String.toList_ofList]
      exact ⟨h, eq_false_of_ne_true hblank⟩
  | group text =>
    rw [Piece.tokens]
    split
    · trivial
    · rename_i hblank
      exact hgroup (trim text) ((isBlank_trim text).trans (eq_false_of_ne_true hblank))
        (trim_trim text)
  | operator op => exact ⟨trivial, trivial⟩

/-- A level has its shape if `group` gives such tokens. -/
theorem hasShape_flatMap_tokens {limit level : Nat} {group : List Char → Expression}
    (text : List Char)
    (hgroup : ∀ inner, isBlank inner = false → trim inner = inner →
      Expression.HasShape limit level (group inner)) :
    Expression.HasShape limit level ((pieces text).flatMap (Piece.tokens group)) := by
  rw [Expression.hasShape_iff]
  intro t ht
  obtain ⟨piece, hpiece, ht⟩ := List.mem_flatMap.1 ht
  have hshape := Piece.hasShape_tokens (pieces_hasShape text piece hpiece) hgroup
  exact Expression.hasShape_iff.1 hshape t ht

theorem Expression.hasShape_asGroup {limit level : Nat} {e : Expression} (hlevel : level < limit)
    (h : Expression.HasShape limit (level + 1) e) : Expression.HasShape limit level e.asGroup := by
  cases e with
  | nil => trivial
  | cons t ts => exact ⟨⟨hlevel, List.cons_ne_nil t ts, h⟩, trivial⟩

/-- A kept group has the shape of a bare term at the limit. -/
theorem BareShape.bracketed {limit : Nat} {inner : List Char} (hblank : isBlank inner = false)
    (htrim : trim inner = inner) : BareShape limit limit (bracketed inner) where
  ne_nil := List.cons_ne_nil _ _
  head := rfl
  last := by
    rw [BooleanSearch.bracketed, List.getLast?_append]
    rfl
  kind := .inl ⟨rfl, inner, hblank, htrim, rfl⟩

/-- **What is read has its shape**, by induction on the room that is left below the level. -/
theorem scan_hasShape (room level : Nat) (text : List Char) :
    Expression.HasShape (level + room) level (scan room text) := by
  induction room generalizing level text with
  | zero =>
    refine hasShape_flatMap_tokens text fun inner hblank htrim => ⟨?_, trivial⟩
    rw [Token.HasShape, String.toList_ofList]
    exact BareShape.bracketed hblank htrim
  | succ room ih =>
    refine hasShape_flatMap_tokens text fun inner _ _ => Expression.hasShape_asGroup (by omega) ?_
    rw [← Nat.succ_add_eq_add_succ]
    exact ih (level + 1) inner

mutual

theorem Token.depth_le_of_hasShape {limit : Nat} (t : Token) {level : Nat} (hlevel : level ≤ limit)
    (h : t.HasShape limit level) : t.depth + level ≤ limit := by
  cases t with
  | group children =>
    obtain ⟨hbelow, -, hchildren⟩ := h
    have hdepth := Expression.depth_le_of_hasShape children hbelow hchildren
    rw [Token.depth]
    omega
  | _ => exact (Nat.zero_add level).symm ▸ hlevel

/-- Groups that stand above the limit nest no deeper than it. -/
theorem Expression.depth_le_of_hasShape {limit : Nat} (e : Expression) {level : Nat}
    (hlevel : level ≤ limit) (h : Expression.HasShape limit level e) :
    Expression.depth e + level ≤ limit := by
  cases e with
  | nil => exact (Nat.zero_add level).symm ▸ hlevel
  | cons t ts =>
    have ht := Token.depth_le_of_hasShape t hlevel h.1
    have hts := Expression.depth_le_of_hasShape ts hlevel h.2
    rw [Expression.depth]
    omega

end

/-- **The shape of everything that is read**, whatever the text and whatever limit is asked for: no
group nests deeper than the limit in force, no group is empty, phrases hold no quote and are not
blank, and each bare term is trimmed and either plain text or a group kept at the limit. -/
theorem tokenize_hasShape (d : Nat) (text : String) :
    (Tokenizer.ofMaxDepth d).maxDepth = min d 256 ∧
      Expression.depth ((Tokenizer.ofMaxDepth d).tokenize text) ≤ min d 256 ∧
      Expression.HasShape (min d 256) 0 ((Tokenizer.ofMaxDepth d).tokenize text) := by
  have hshape := scan_hasShape (min d 256) 0 text.toList
  rw [Nat.zero_add] at hshape
  exact ⟨rfl, Expression.depth_le_of_hasShape _ (Nat.zero_le _) hshape, hshape⟩

end BooleanSearch
