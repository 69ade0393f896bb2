import BooleanSearch.Proofs.DepthLimit
import BooleanSearch.Proofs.Shape

/-!
# The log of a reading

Reading a text reports its operators and the groups that it keeps as text, level by level.  The
log is made apart from the expression; here the two are shown to say the same: whoever has the log
knows the operators of the expression, where they stand, and how many groups were kept.

* `Expression.operators` — the operators of an expression in reading order, each with its level;
* `Describes` — events that report exactly the operators and the kept groups of an expression;
  nothing describes nothing, and joining and grouping keep it;
* `Piece.describes` — the events of one piece describe its tokens if those of a group do;
* `scanEvents_describes` — the events of a level describe what is read there, by induction on the
  room for groups;
* `events_describe_tokenize` — the statement for a reader with its limit.
-/

namespace BooleanSearch

/-! ## Operators and their levels -/

mutual

/-- The operators of a token that stands at a level, each with its own level. -/
def Token.operators (level : Nat) : Token → List (Operator × Nat)
  | .bare _ | .phrase _ => []
  | .operator op => [(op, level)]
  | .group children => Expression.operators (level + 1) children

/-- The operators of an expression that stands at a level, in reading order, each with its own
level. -/
def Expression.operators (level : Nat) : Expression → List (Operator × Nat)
  | [] => []
  | t :: ts => t.operators level ++ Expression.operators level ts

end

theorem Expression.operators_append (level : Nat) (e e' : Expression) :
    Expression.operators level (e ++ e') =
      Expression.operators level e ++ Expression.operators level e' := by
  induction e with
  | nil => rfl
  | cons t ts ih =>
    rw [List.cons_append, Expression.operators, ih, Expression.operators, List.append_assoc]

theorem Expression.operators_asGroup (level : Nat) (e : Expression) :
    Expression.operators level e.asGroup = Expression.operators (level + 1) e := by
  cases e with
  | nil => rfl
  | cons t ts => exact List.append_nil _

/-! ## Events that describe an expression -/

/-- The events at one level of the log. -/
def eventsAt (level : LogLevel) (log : List Event) : List Event :=
  log.filter fun event => event.level = level

theorem eventsAt_append (level : LogLevel) (log log' : List Event) :
    eventsAt level (log ++ log') = eventsAt level log ++ eventsAt level log' :=
  List.filter_append ..

/-- Events that report the operators of an expression at a level, and one kept group for each bare
term that begins with a parenthesis. -/
structure Describes (limit level : Nat) (log : List Event) (e : Expression) : Prop where
  operators : eventsAt .trace log =
    (Expression.operators level e).map fun place => .operatorRead place.1 place.2
  kept : eventsAt .warn log = List.replicate (e.terms.countP Term.isKept) (.groupKept limit)
  silent : eventsAt .debug log = []

section Describing

variable {limit level : Nat}

theorem Describes.nil : Describes limit level [] [] where
  operators := rfl
  kept := rfl
  silent := rfl

theorem Describes.append {log log' : List Event} {e e' : Expression}
    (h : Describes limit level log e) (h' : Describes limit level log' e') :
    Describes limit level (log ++ log') (e ++ e') where
  operators := by
    rw [eventsAt_append, h.operators, h'.operators, Expression.operators_append, List.map_append]
  kept := by
    rw [eventsAt_append, h.kept, h'.kept, Expression.terms_append, List.countP_append,
      List.replicate_append_replicate]
  silent := by
    rw [eventsAt_append, h.silent, h'.silent, List.append_nil]

/-- The events of a group are those of its inside: a group that vanishes had none. -/
theorem Describes.asGroup {log : List Event} {e : Expression}
    (h : Describes limit (level + 1) log e) : Describes limit level log e.asGroup where
  operators := by rw [h.operators, Expression.operators_asGroup]
  kept := by rw [h.kept, Expression.terms_asGroup]
  silent := h.silent

theorem Describes.operator (op : Operator) :
    Describes limit level [.operatorRead op level] [.operator op] where
  operators := rfl
  kept := rfl
  silent := rfl

/-- A kept group is one event and one term that begins with a parenthesis. -/
theorem Describes.keptGroup (inner : List Char) :
    Describes limit level [.groupKept limit] [.bare (String.ofList (bracketed inner))] where
  operators := rfl
  kept := by
    have hkept : (Term.mk (String.ofList (bracketed inner)) false).isKept = true := by
      rw [Term.isKept, String.toList_ofList]
      rfl
    have hcount : (Expression.terms [.bare (String.ofList (bracketed inner))]).countP
        Term.isKept = 1 := by
      rw [Expression.terms, Token.terms, Expression.terms, List.append_nil, List.countP_singleton,
        if_pos hkept]
    rw [hcount]
    rfl
  silent := rfl

/-- A term that does not begin with a parenthesis goes unreported. -/
theorem Describes.term {t : Token} {term : Term} (hterms : t.terms = [term])
    (hoperators : t.operators level = []) (hkept : term.isKept = false) :
    Describes limit level [] [t] where
  operators := by
    rw [Expression.operators, hoperators]
    rfl
  kept := by
    have hcount : (Expression.terms [t]).countP Term.isKept = 0 := by
      rw [Expression.terms, hterms, Expression.terms, List.append_nil, List.countP_singleton,
        hkept, if_neg Bool.false_ne_true]
    rw [hcount]
    rfl
  silent := rfl

/-! ## One level -/

/-- Plain text begins with no parenthesis. -/
theorem PlainText.isKept_eq_false {text : List Char} (h : PlainText text) :
    (Term.mk (String.ofList text) false).isKept = false := by
  have hhead : text.head? ≠ some '(' := fun hhead => h.no_open (List.mem_of_mem_head? hhead)
  simpa [Term.isKept] using hhead

/-- **The events of a piece describe its tokens** if those of a group do. -/
theorem Piece.describes {groupEvents : List Char → List Event} {group : List Char → Expression}
    (hgroup : ∀ inner, Describes limit level (groupEvents inner) (group inner)) {piece : Piece}
    (h : piece.HasShape) :
    Describes limit level (piece.events level groupEvents) (piece.tokens group) := by
  cases piece with
  | bare text =>
    rw [Piece.events, Piece.tokens]
    split
    · exact Describes.nil
    · have hplain : PlainText (trim text) := PlainText.of_part h (trim_isInfix text)
      exact Describes.term rfl rfl hplain.isKept_eq_false
  | phrase text =>
    rw [Piece.events, Piece.tokens]
    split
    · exact Describes.nil
    · exact Describes.term rfl rfl rfl
  | group text =>
    rw [Piece.events, Piece.tokens]
    split
    · exact Describes.nil
    · exact hgroup (trim text)
  | operator op => exact Describes.operator op

/-- The events of some pieces describe their tokens. -/
theorem describes_flatMap {groupEvents : List Char → List Event} {group : List Char → Expression}
    (hgroup : ∀ inner, Describes limit level (groupEvents inner) (group inner)) {ps : List Piece}
    (h : ∀ piece ∈ ps, piece.HasShape) :
    Describes limit level (ps.flatMap (Piece.events level groupEvents))
      (ps.flatMap (Piece.tokens group)) := by
  induction ps with
  | nil => exact Describes.nil
  | cons p ps ih =>
    obtain ⟨hp, hps⟩ := List.forall_mem_cons.1 h
    exact (Piece.describes hgroup hp).append (ih hps)

end Describing

/-! ## The tree -/

/-- **The events of a level describe what is read there**, by induction on the room that is left.
A group that is read to nothing reported nothing either, so none of its events is left over. -/
theorem scanEvents_describes (room level : Nat) (text : List Char) :
    Describes (level + room) level (scanEvents room level text) (scan room text) := by
  induction room generalizing level text with
  | zero => exact describes_flatMap (fun inner => Describes.keptGroup inner) (pieces_hasShape text)
  | succ room ih =>
    refine describes_flatMap (fun inner => Describes.asGroup ?_) (pieces_hasShape text)
    rw [← Nat.succ_add_eq_add_succ]
    exact ih (level + 1) inner

/-- **The log of a reading describes the expression that is read**, whatever the text and whatever
limit is asked for.  The operators are reported in reading order with the level at which they
stand; a group kept as text is reported, with the limit, once for each bare term that begins with a
parenthesis; and one report, the last, gives the number of outermost tokens. -/
theorem events_describe_tokenize (d : Nat) (text : String) :
    eventsAt .trace ((Tokenizer.ofMaxDepth d).events text) =
        (Expression.operators 0 ((Tokenizer.ofMaxDepth d).tokenize text)).map
          (fun place => .operatorRead place.1 place.2) ∧
      eventsAt .warn ((Tokenizer.ofMaxDepth d).events text) =
        List.replicate (((Tokenizer.ofMaxDepth d).tokenize text).terms.countP Term.isKept)
          (.groupKept (min d 256)) ∧
      eventsAt .debug ((Tokenizer.ofMaxDepth d).events text) =
        [.tokenised ((Tokenizer.ofMaxDepth d).tokenize text).length] ∧
      ((Tokenizer.ofMaxDepth d).events text).getLast? =
        some (.tokenised ((Tokenizer.ofMaxDepth d).tokenize text).length) := by
  have hscan := scanEvents_describes (min d 256) 0 text.toList
  rw [Nat.zero_add] at hscan
  have hevents : (Tokenizer.ofMaxDepth d).events text = scanEvents (min d 256) 0 text.toList ++
      [.tokenised ((Tokenizer.ofMaxDepth d).tokenize text).length] := rfl
  rw [hevents]
  refine ⟨?_, ?_, ?_, List.getLast?_concat⟩
  · rw [eventsAt_append, hscan.operators]
    exact List.append_nil _
  · rw [eventsAt_append, hscan.kept]
    exact List.append_nil _
  · rw [eventsAt_append, hscan.silent]
    rfl

-- The operator inside the group is reported when the group is read, with its level; the inner group
-- is kept.
example : (Tokenizer.ofMaxDepth 1).events "a OR (b AND (c OR d)) ((\"\")) NOT e" =
    [.operatorRead .or 0, .operatorRead .and 1, .groupKept 1, .groupKept 1, .operatorRead .not 0,
      .tokenised 6] := by decide +kernel

end BooleanSearch
