import BooleanSearch.Token.Written
import BooleanSearch.Tokenizer
import BooleanSearch.Proofs.Scanning

/-!
# Content of a text

What is left of a text without its delimiters, quotes and parentheses.  Reading keeps all of it,
in order: whatever the reader drops or adds is markup.

* `content`, `strip` — the content of a text, as characters and as text;
* `Piece.content` — the content of a piece, an operator's being its keyword;
* `Piece.source`, `cutOperators_filter` — cutting at operators takes delimiters only;
* `regions_content`, `cutOperators_content` — neither pass over a level loses content;
* `scan_content` — nor does reading a level with its groups;
* `strip_reconstruct_tokenize` — the statement for a reader with its limit.
-/

namespace BooleanSearch

/-! ## Markup and content -/

/-- Delimiters, quotes and parentheses structure a text and are no content. -/
def isMarkup (c : Char) : Bool :=
  isDelimiter c || c == '"' || c == '(' || c == ')'

/-- The characters of a text that are no markup. -/
def content (text : List Char) : List Char :=
  text.filter fun c => !isMarkup c

/-- A text without its markup. -/
def strip (text : String) : String :=
  String.ofList (content text.toList)

theorem content_append (xs ys : List Char) : content (xs ++ ys) = content xs ++ content ys :=
  List.filter_append ..

theorem content_cons (c : Char) (rest : List Char) :
    content (c :: rest) = content [c] ++ content rest :=
  content_append [c] rest

theorem content_markup {c : Char} (h : isMarkup c = true) (rest : List Char) :
    content (c :: rest) = content rest :=
  List.filter_cons_of_neg (by simp [h])

theorem isMarkup_of_isDelimiter {c : Char} (h : isDelimiter c = true) : isMarkup c = true := by
  simp [isMarkup, h]

theorem content_of_isBlank {text : List Char} (h : isBlank text = true) : content text = [] := by
  refine List.filter_eq_nil_iff.2 fun c hc => ?_
  simp [isMarkup_of_isDelimiter (List.all_eq_true.1 h c hc)]

/-- Trimming takes no content. -/
theorem content_trim (text : List Char) : content (trim text) = content text := by
  obtain ⟨lead, trail, hlead, htrail, heq⟩ := exists_trim_eq text
  have hcontent := congrArg content heq
  rw [content_append, content_append, content_of_isBlank hlead, content_of_isBlank htrail,
    List.nil_append, List.append_nil] at hcontent
  exact hcontent.symm

/-- Text between two marks has the content of the text. -/
theorem content_enclosed {opening closing : Char} (hopening : isMarkup opening = true)
    (hclosing : isMarkup closing = true) (text : List Char) :
    content (opening :: text ++ [closing]) = content text := by
  rw [List.cons_append, content_markup hopening, content_append, content_markup hclosing]
  exact List.append_nil _

/-! ## One level -/

/-- The content of a piece. -/
def Piece.content : Piece → List Char
  | .bare text => BooleanSearch.content text
  | .phrase text => BooleanSearch.content text
  | .group text => BooleanSearch.content text
  | .operator op => BooleanSearch.content op.keyword.toList

/-- What is read in a mode becomes a piece with that content. -/
theorem Mode.content_piece (mode : Mode) (text : List Char) :
    (mode.piece text).content = content text := by
  cases mode <;> rfl

/-- Borders are quotes and parentheses. -/
theorem Mode.isMarkup_of_isBorder {mode : Mode} {c : Char} (h : mode.isBorder c = true) :
    isMarkup c = true := by
  cases mode with
  | bare =>
    obtain rfl | rfl : c = '"' ∨ c = '(' := by simpa [Mode.isBorder] using h
    · rfl
    · rfl
  | phrase =>
    obtain rfl : c = '"' := by simpa [Mode.isBorder] using h
    rfl
  | group nesting =>
    obtain ⟨-, rfl⟩ : nesting = 0 ∧ c = ')' := by simpa [Mode.isBorder] using h
    rfl

/-- Cutting at borders keeps the content of the text and of what is held. -/
theorem regions_content (mode : Mode) (held text : List Char) :
    (regions mode held text).flatMap Piece.content = content held.reverse ++ content text := by
  induction text generalizing mode held with
  | nil =>
    rw [regions, List.flatMap_singleton, Mode.content_piece]
    exact (List.append_nil _).symm
  | cons c rest ih =>
    by_cases hborder : mode.isBorder c = true
    · rw [regions_border hborder, List.flatMap_cons, Mode.content_piece, ih,
        content_markup (Mode.isMarkup_of_isBorder hborder)]
      rfl
    · rw [regions_cons (eq_false_of_ne_true hborder), ih, List.reverse_cons, content_append,
        List.append_assoc, ← content_cons]

/-- What a piece stands for in the text: a group has its parentheses, an operator its keyword. -/
def Piece.source : Piece → List Char
  | .bare text | .phrase text => text
  | .group text => bracketed text
  | .operator op => op.keyword.toList

/-- Cutting at operators takes delimiters only: all else of what is held and of what is not passed
over is kept. -/
theorem cutOperators_filter {keep : Char → Bool}
    (hkeep : ∀ c, isDelimiter c = true → keep c = false) (held : List Char) (passing : Nat)
    (text : List Char) :
    ((cutOperators held passing text).flatMap Piece.source).filter keep =
      (held.reverse ++ text.drop passing).filter keep := by
  fun_induction cutOperators held passing text with
  | case1 held passing =>
    rw [List.flatMap_singleton, List.drop_nil, List.append_nil]
    rfl
  | case2 held passing c rest ih => exact ih
  | case3 held c rest op hop ih =>
    obtain ⟨c', d, tail, hc, hd, heq⟩ := Operator.leading?_eq_some hop
    obtain ⟨rfl, rfl⟩ := List.cons.inj heq
    -- the keyword is what the operator stands for, and of its two delimiters nothing is kept
    have hpassed : (op.keyword.toList ++ d :: tail).drop (op.keyword.length + 1) = tail := by
      rw [← String.length_toList, List.drop_length_add_append]
      rfl
    have hspaced : (c :: (op.keyword.toList ++ d :: tail)).filter keep =
        op.keyword.toList.filter keep ++ tail.filter keep := by
      rw [List.filter_cons_of_neg (by simp [hkeep c hc]), List.filter_append,
        List.filter_cons_of_neg (by simp [hkeep d hd])]
    rw [List.flatMap_cons, List.flatMap_cons, List.filter_append, List.filter_append, ih, hpassed,
      List.drop_zero, List.filter_append held.reverse, hspaced]
    rfl
  | case4 held c rest hop ih =>
    rw [ih, List.reverse_cons, List.append_assoc]
    rfl

/-- The parentheses of a group are no content. -/
theorem Piece.content_source (piece : Piece) :
    BooleanSearch.content piece.source = piece.content := by
  cases piece with
  | group text => exact content_enclosed rfl rfl text
  | _ => rfl

/-- Cutting at operators keeps the content of what is held and of what is not passed over. -/
theorem cutOperators_content (held : List Char) (passing : Nat) (text : List Char) :
    (cutOperators held passing text).flatMap Piece.content =
      content held.reverse ++ content (text.drop passing) := by
  calc (cutOperators held passing text).flatMap Piece.content
      = content ((cutOperators held passing text).flatMap Piece.source) := by
        rw [content, List.filter_flatMap]
        exact List.flatMap_congr fun piece _ => (Piece.content_source piece).symm
    _ = content (held.reverse ++ text.drop passing) :=
        cutOperators_filter (fun c hc => by simp [isMarkup_of_isDelimiter hc]) held passing text
    _ = content held.reverse ++ content (text.drop passing) := content_append ..

theorem Piece.content_cut (piece : Piece) : piece.cut.flatMap Piece.content = piece.content := by
  cases piece with
  | bare text =>
    rw [Piece.cut, cutOperators_content]
    rfl
  | _ => exact List.flatMap_singleton ..

/-- The pieces of a level have its content. -/
theorem pieces_content (text : List Char) : (pieces text).flatMap Piece.content = content text := by
  rw [pieces_eq_flatMap, List.flatMap_assoc]
  simp only [Piece.content_cut]
  rw [regions_content, content_markup (by decide), content_trim]
  rfl

/-! ## The tree -/

theorem Expression.written_append (e e' : Expression) :
    Expression.written (e ++ e') = Expression.written e ++ Expression.written e' := by
  induction e with
  | nil => rfl
  | cons t ts ih =>
    rw [List.cons_append, Expression.written, ih, Expression.written, List.append_assoc]

theorem Expression.written_singleton (t : Token) : Expression.written [t] = t.written := by
  rw [Expression.written, Expression.written, List.append_nil]

/-- A piece is written with its content if `group` keeps the content of groups. -/
theorem content_written_tokens {group : List Char → Expression} (piece : Piece)
    (hgroup : ∀ inner, content (Expression.written (group inner)) = content inner) :
    content (Expression.written (piece.tokens group)) = piece.content := by
  cases piece with
  | bare text =>
    rw [Piece.tokens]
    split
    · exact (content_of_isBlank ‹_›).symm
    · rw [Expression.written_singleton, Token.written, String.toList_ofList, content_trim]
      rfl
  | phrase text =>
    rw [Piece.tokens]
    split
    · exact (content_of_isBlank ‹_›).symm
    · rw [Expression.written_singleton, Token.written, String.toList_ofList,
        content_enclosed rfl rfl]
      rfl
  | group text =>
    rw [Piece.tokens]
    split
    · exact (content_of_isBlank ‹_›).symm
    · rw [hgroup, content_trim]
      rfl
  | operator op =>
    rw [Piece.tokens, Expression.written_singleton, Token.written, content_enclosed rfl rfl]
    rfl

/-- A level is written with its content if `group` keeps the content of groups. -/
theorem content_written_flatMap {group : List Char → Expression} (ps : List Piece)
    (hgroup : ∀ inner, content (Expression.written (group inner)) = content inner) :
    content (Expression.written (ps.flatMap (Piece.tokens group))) = ps.flatMap Piece.content := by
  induction ps with
  | nil => rfl
  | cons p ps ih =>
    rw [List.flatMap_cons, Expression.written_append, content_append,
      content_written_tokens p hgroup, ih, List.flatMap_cons]

/-- A group is written with the content of its inside, and a group that vanishes has none. -/
theorem content_written_asGroup (e : Expression) :
    content (Expression.written e.asGroup) = content (Expression.written e) := by
  cases e with
  | nil => rfl
  | cons t ts =>
    rw [Expression.asGroup, Expression.written_singleton, Token.written, content_enclosed rfl rfl,
      content_trim]

/-- **Reading keeps the content of a text**, by induction on the room for groups. -/
theorem scan_content (room : Nat) (text : List Char) :
    content (Expression.written (scan room text)) = content text := by
  induction room generalizing text with
  | zero =>
    rw [scan, content_written_flatMap, pieces_content]
    intro inner
    rw [Expression.written_singleton, Token.written, String.toList_ofList, bracketed,
      content_enclosed rfl rfl]
  | succ room ih =>
    rw [scan, content_written_flatMap, pieces_content]
    intro inner
    rw [content_written_asGroup, ih]

/-- **Reading loses, duplicates and reorders no content**: what is read and written again has the
content of the text, whatever the text and the limit. -/
theorem strip_reconstruct_tokenize (d : Nat) (text : String) :
    strip ((Tokenizer.ofMaxDepth d).tokenize text).reconstruct = strip text := by
  rw [strip, Expression.reconstruct, String.toList_ofList, content_trim, Tokenizer.tokenize,
    scan_content, strip]

end BooleanSearch
