import BooleanSearch.Proofs.Automaton
import BooleanSearch.Proofs.Legible

/-!
# Joining texts

Two texts are joined and read, and the reading is that of the one text followed by that of the
other.  This holds around an operator, as long as the first text does not end in a keyword that
could run into it, and it holds behind a phrase or a group that the first text closes.

* `Uncrossed` — no operator begins in a text and ends behind it; `uncrossed_of_endsInKeyword`;
* `cutOperators_append` — cutting at operators goes on behind a text that no operator crosses;
* `readLevel_of_isBlank`, `readLevel_space`, `readLevel_blank_append` — blank text in front of a
  level changes nothing;
* `readLevel_append_operator`, `readLevel_append_border` — a level is read up to an operator, and up
  to a closed phrase or group;
* `tokenize_join` — the statement for a reader with its limit.
-/

namespace BooleanSearch

/-! ## Operators at the border of two texts -/

/-- An operator that begins in the text is the same whether or not the rest follows. -/
def Uncrossed (text rest : List Char) : Prop :=
  ∀ front c back, text = front ++ c :: back →
    Operator.leading? (c :: (back ++ rest)) = Operator.leading? (c :: back)

theorem Uncrossed.tail {c : Char} {text rest : List Char} (h : Uncrossed (c :: text) rest) :
    Uncrossed text rest :=
  fun front x back heq => h (c :: front) x back (by simp [heq])

/-- Part of a text at its end is not crossed if the text is not. -/
theorem Uncrossed.of_suffix {part text rest : List Char} (h : Uncrossed text rest)
    (hpart : part <:+ text) : Uncrossed part rest := by
  obtain ⟨lead, rfl⟩ := hpart
  intro front c back heq
  exact h (lead ++ front) c back (by simp [heq])

/-- The only delimiter in a keyword is the space. -/
theorem Operator.eq_space_of_mem {op : Operator} {c : Char} (h : c ∈ op.keyword.toList)
    (hc : isDelimiter c = true) : c = ' ' := by
  have hall : op.keyword.toList.all (fun c => !isDelimiter c || c == ' ') = true := by
    cases op <;> decide
  have hor := List.all_eq_true.1 hall c h
  simpa [hc] using hor

/-- An operator that runs over the end of a text up to a delimiter leaves a keyword there. -/
theorem leads_append_delimiter {op : Operator} {front back rest : List Char} {c d : Char}
    (htext : endsInKeyword (front ++ c :: back) = false) (hd : isDelimiter d = true) :
    op.leads (c :: (back ++ d :: rest)) = op.leads (c :: back) := by
  rw [Bool.eq_iff_iff]
  constructor
  · intro hlead
    obtain ⟨c', d', tail, hc, hd', heq⟩ := (op.leads_iff _).1 hlead
    obtain ⟨rfl, hbehind⟩ := List.cons.inj heq
    have hnot : ∀ word, isKeywordWord word = true → back ≠ word := by
      rintro word hword rfl
      rw [(endsInKeyword_iff _).2 ⟨front, c, back, hc, hword, rfl⟩] at htext
      cases htext
    obtain ⟨a, hkeyword, ha⟩ | ⟨a, rfl, ha⟩ := List.append_eq_append_iff.1 hbehind
    · cases a with
      | nil =>
        -- the keyword ends where the text does
        have hback : back = op.keyword.toList := by simpa using hkeyword.symm
        rw [hback, op.endsInKeyword hc front] at htext
        cases htext
      | cons x a =>
        -- the text ends at the space inside the keyword
        obtain ⟨rfl, -⟩ := List.cons.inj ha
        have hmem : d ∈ op.keyword.toList := by simp [hkeyword]
        obtain rfl := Operator.eq_space_of_mem hmem hd
        exact absurd rfl (hnot back (Operator.isKeywordWord_of_space hkeyword))
    · cases a with
      | nil =>
        rw [List.append_nil, op.endsInKeyword hc front] at htext
        cases htext
      | cons x a =>
        obtain ⟨rfl, -⟩ := List.cons.inj ha
        exact (op.leads_iff _).2 ⟨c, d', a, hc, hd', by simp⟩
  · intro hlead
    exact Operator.leads_append hlead (d :: rest)

/-- Text that ends in no keyword is not crossed where a delimiter follows. -/
theorem uncrossed_of_endsInKeyword {text rest : List Char} (htext : endsInKeyword text = false)
    (hrest : ∀ d ∈ rest.head?, isDelimiter d = true) : Uncrossed text rest := by
  rintro front c back rfl
  cases rest with
  | nil => rw [List.append_nil]
  | cons d rest =>
    have hd : isDelimiter d = true := hrest d rfl
    simp only [Operator.leading?, leads_append_delimiter htext hd]

/-- **Cutting at operators goes on** behind a text that no operator crosses, with what the text
leaves held. -/
theorem cutOperators_append {held : List Char} {passing : Nat} {text rest : List Char}
    (hpassing : passing ≤ text.length) (htext : Uncrossed text rest) :
    ∃ ps held', cutOperators held passing text = ps ++ [.bare held'.reverse] ∧
      cutOperators held passing (text ++ rest) = ps ++ cutOperators held' 0 rest := by
  fun_induction cutOperators held passing text with
  | case1 held passing =>
    obtain rfl : passing = 0 := by simpa using hpassing
    exact ⟨[], held, rfl, rfl⟩
  | case2 held passing c text ih => exact ih (by simpa using hpassing) htext.tail
  | case3 held c text op hop ih =>
    have hjoined : Operator.leading? (c :: (text ++ rest)) = some op :=
      (htext [] c text rfl).trans hop
    have hlength : op.keyword.length + 1 ≤ text.length := by
      obtain ⟨c', d, tail, -, -, heq⟩ := Operator.leading?_eq_some hop
      obtain ⟨-, rfl⟩ := List.cons.inj heq
      rw [List.length_append, String.length_toList, List.length_cons]
      omega
    obtain ⟨ps, held', hpieces, hcut⟩ := ih hlength htext.tail
    refine ⟨.bare held.reverse :: .operator op :: ps, held', ?_, ?_⟩
    · rw [hpieces]
      rfl
    · rw [List.cons_append, cutOperators, hjoined]
      simp [hcut]
  | case4 held c text hop ih =>
    have hjoined : Operator.leading? (c :: (text ++ rest)) = none :=
      (htext [] c text rfl).trans hop
    obtain ⟨ps, held', hpieces, hcut⟩ := ih (Nat.zero_le _) htext.tail
    refine ⟨ps, held', hpieces, ?_⟩
    rw [List.cons_append, cutOperators, hjoined]
    exact hcut

/-- A text that ends as bare text and is not crossed is cut into pieces on its own. -/
theorem piecesFrom_append_uncrossed {text rest : List Char} (hmode : modeAfter text = .bare)
    (htext : Uncrossed text (rest.takeWhile isPlain)) :
    ∃ ps held, piecesFrom [] text = ps ++ [.bare held.reverse] ∧
      piecesFrom [] (text ++ rest) = ps ++ piecesFrom held rest := by
  obtain ⟨closed, open', hsuffix, hregions⟩ := regions_append .bare [] text
  rw [show text.foldl Mode.next .bare = .bare from hmode] at hregions
  obtain ⟨ps, held, hpieces, hcut⟩ :=
    @cutOperators_append [] 0 _ _ (Nat.zero_le _) (htext.of_suffix hsuffix)
  have hcutall : ∀ rest', piecesFrom [] (text ++ rest') =
      closed.flatMap Piece.cut ++ (cutOperators [] 0 (open'.reverse ++ rest'.takeWhile isPlain) ++
        (regionsBehind (rest'.dropWhile isPlain)).flatMap Piece.cut) := by
    intro rest'
    rw [← flatMap_cut_regions, hregions, regions_bare, List.flatMap_append, List.flatMap_cons]
    rfl
  refine ⟨closed.flatMap Piece.cut ++ ps, held, ?_, ?_⟩
  · have hend := hcutall []
    simp only [List.append_nil, List.takeWhile_nil, List.dropWhile_nil, hpieces] at hend
    rw [hend]
    simp [regionsBehind]
  · rw [hcutall rest, hcut]
    simp [piecesFrom]

/-! ## Blank text in front of a level -/

/-- Bare texts with the same trimmed form are read alike, and so are groups. -/
theorem Piece.tokens_congr {make : List Char → Piece} (hmake : make = .bare ∨ make = .group)
    {xs ys : List Char} (h : trim xs = trim ys) (group : List Char → Expression) :
    (make xs).tokens group = (make ys).tokens group := by
  rcases hmake with rfl | rfl
  · rw [Piece.tokens, Piece.tokens, ← isBlank_trim xs, h, isBlank_trim]
  · rw [Piece.tokens, Piece.tokens, ← isBlank_trim xs, h, isBlank_trim]

/-- What is held goes in front of the first piece and changes no other. -/
theorem cutOperators_held (passing : Nat) (text : List Char) :
    ∃ first ps, ∀ held, cutOperators held passing text = .bare (held.reverse ++ first) :: ps := by
  induction text generalizing passing with
  | nil => exact ⟨[], [], fun held => by simp [cutOperators]⟩
  | cons c text ih =>
    cases passing with
    | succ passing => exact ih passing
    | zero =>
      cases hop : Operator.leading? (c :: text) with
      | some op => exact ⟨[], _, fun held => by rw [cutOperators, hop, List.append_nil]⟩
      | none =>
        obtain ⟨first, ps, hcut⟩ := ih 0
        refine ⟨c :: first, ps, fun held => ?_⟩
        rw [cutOperators, hop]
        simp [hcut]

/-- Blank text that is held does not matter. -/
theorem readLevel_of_isBlank (room : Nat) {held : List Char} (h : isBlank held = true)
    (text : List Char) : readLevel room held text = readLevel room [] text := by
  obtain ⟨first, ps, hcut⟩ := cutOperators_held 0 (text.takeWhile isPlain)
  have hheld : isBlank held.reverse = true := (isBlank_reverse held).trans h
  have hfirst := Piece.tokens_congr (.inl rfl) (trim_blank_append hheld first) (readGroup room)
  rw [readLevel, readLevel, piecesFrom, piecesFrom, hcut, hcut, List.cons_append, List.cons_append,
    List.flatMap_cons, List.flatMap_cons, hfirst]
  rfl

/-- A delimiter is a boundary. -/
theorem atBoundary_of_isDelimiter {c : Char} (h : isDelimiter c = true) (rest : List Char) :
    AtBoundary (c :: rest) := by
  intro x hx
  obtain rfl : c = x := Option.some.inj hx
  exact .inl h

theorem leading?_eq_none_of_atBoundary {c : Char} {rest : List Char} (h : AtBoundary rest) :
    Operator.leading? (c :: rest) = none :=
  Operator.leading?_eq_none (@firstWord_append [] rest rfl h)

/-- A space in front of a boundary does not matter. -/
theorem readLevel_space (room : Nat) {rest : List Char} (h : AtBoundary rest) :
    readLevel room [] (' ' :: rest) = readLevel room [] rest := by
  have hheld : readLevel room [] (' ' :: rest) = readLevel room [' '] rest := by
    rw [readLevel, piecesFrom_cons rfl (leading?_eq_none_of_atBoundary h)]
    rfl
  rw [hheld, readLevel_of_isBlank room rfl]

/-- Any delimiter in front of a level is as good as a space. -/
theorem readLevel_delimiter (room : Nat) {c : Char} (hc : isDelimiter c = true)
    (rest : List Char) : readLevel room [] (c :: rest) = readLevel room [] (' ' :: rest) := by
  have hsame : Operator.leading? (' ' :: rest) = Operator.leading? (c :: rest) := by
    simp [Operator.leading?, Operator.leads, hc, show isDelimiter ' ' = true from rfl]
  cases hop : Operator.leading? (c :: rest) with
  | none =>
    rw [readLevel, readLevel, piecesFrom_cons (isPlain_of_isDelimiter hc) hop,
      piecesFrom_cons rfl (hsame.trans hop)]
    have hc' : isBlank [c] = true := by simp [isBlank, hc]
    exact (readLevel_of_isBlank room hc' rest).trans (readLevel_of_isBlank room rfl rest).symm
  | some op =>
    rw [hop] at hsame
    obtain ⟨c', d, tail, -, hd, heq⟩ := Operator.leading?_eq_some hop
    obtain ⟨-, rfl⟩ := List.cons.inj heq
    rw [readLevel, readLevel, piecesFrom_operator hop hc hd, piecesFrom_operator hsame rfl hd]

/-- Blank text in front of a level does not matter. -/
theorem readLevel_blank_append (room : Nat) {lead : List Char} (h : isBlank lead = true)
    (text : List Char) :
    readLevel room [] (' ' :: (lead ++ text)) = readLevel room [] (' ' :: text) := by
  induction lead with
  | nil => rfl
  | cons c lead ih =>
    obtain ⟨hc, hlead⟩ := Bool.and_eq_true_iff.1 h
    rw [List.cons_append, readLevel_space room (atBoundary_of_isDelimiter hc _),
      readLevel_delimiter room hc, ih hlead]

/-- A text is read without its blank end, and its blank front need not be taken away. -/
theorem scan_append_blank (room : Nat) {body trail : List Char}
    (hbody : body.getLast?.any isDelimiter = false) (htrail : isBlank trail = true) :
    scan room (body ++ trail) = readLevel room [] (' ' :: body) := by
  have hlead : isBlank (body.takeWhile isDelimiter) = true := List.all_takeWhile
  have hsplit := readLevel_blank_append room hlead (body.dropWhile isDelimiter)
  rw [List.takeWhile_append_dropWhile] at hsplit
  rw [scan_eq, trim_append_blank htrail, trim_eq_dropWhile hbody, hsplit]

/-- A text that ends in no delimiter is a level as it is. -/
theorem scan_eq_of_getLast? (room : Nat) {text : List Char}
    (h : text.getLast?.any isDelimiter = false) :
    scan room text = readLevel room [] (' ' :: text) := by
  have hnone : isBlank [] = true := rfl
  rw [← scan_append_blank room h hnone, List.append_nil]

/-! ## Up to an operator -/

/-- Blank text in front of an operator is held. -/
theorem piecesFrom_blank_operator {trail : List Char} (htrail : isBlank trail = true)
    (op : Operator) (held rest : List Char) :
    piecesFrom held (trail ++ ' ' :: (op.keyword.toList ++ ' ' :: ' ' :: rest)) =
      .bare (held.reverse ++ trail) :: .operator op :: piecesFrom [] (' ' :: rest) := by
  have hplain : ∀ c ∈ trail, isPlain c = true := fun c hc =>
    isPlain_of_isDelimiter (List.all_eq_true.1 htrail c hc)
  have hnone : ∀ front c back, trail = front ++ c :: back →
      Operator.leading? (c :: (back ++ ' ' :: (op.keyword.toList ++ ' ' :: ' ' :: rest))) =
        none := by
    rintro front c back rfl
    apply leading?_eq_none_of_atBoundary
    cases back with
    | nil => exact atBoundary_of_isDelimiter rfl _
    | cons x back =>
      have hx : isDelimiter x = true := List.all_eq_true.1 htrail x (by simp)
      exact atBoundary_of_isDelimiter hx _
  -- two spaces behind the keyword keep `NOT` from making it longer
  have hnot : Operator.not.leads (' ' :: ' ' :: rest) = false :=
    Operator.leads_eq_false_of_head (by simp [Operator.keyword])
  have hlead := Operator.leading?_keyword op (c := ' ') (d := ' ') rfl rfl fun _ => hnot
  rw [piecesFrom_append hplain hnone, piecesFrom_operator hlead rfl rfl]
  simp

/-- **A level is read up to an operator** that no keyword in front of it runs into. -/
theorem readLevel_append_operator (room : Nat) {text trail : List Char}
    (hmode : modeAfter text = .bare) (hkeyword : endsInKeyword text = false)
    (htrail : isBlank trail = true) (op : Operator) (rest : List Char) :
    readLevel room [] (text ++ (trail ++ ' ' :: (op.keyword.toList ++ ' ' :: ' ' :: rest))) =
      readLevel room [] text ++ .operator op :: readLevel room [] (' ' :: rest) := by
  have huncrossed : Uncrossed text
      ((trail ++ ' ' :: (op.keyword.toList ++ ' ' :: ' ' :: rest)).takeWhile isPlain) := by
    refine uncrossed_of_endsInKeyword hkeyword fun d hd => ?_
    cases trail with
    | nil =>
      obtain rfl : ' ' = d := by simpa [isPlain, Mode.isBorder] using hd
      rfl
    | cons x trail =>
      have hx : isDelimiter x = true := List.all_eq_true.1 htrail x (by simp)
      rw [List.cons_append, List.takeWhile_cons_of_pos (isPlain_of_isDelimiter hx)] at hd
      obtain rfl : x = d := Option.some.inj hd
      exact hx
  obtain ⟨ps, held, hpieces, hjoined⟩ := piecesFrom_append_uncrossed hmode huncrossed
  have hlast :=
    Piece.tokens_congr (.inl rfl) (trim_append_blank htrail held.reverse) (readGroup room)
  rw [readLevel, hjoined, piecesFrom_blank_operator htrail, readLevel, hpieces,
    List.flatMap_append, List.flatMap_append, List.flatMap_cons, List.flatMap_singleton, hlast,
    List.append_assoc]
  rfl

/-! ## Up to a closed phrase or group -/

/-- **A level is read up to the border** that leads back to bare text. -/
theorem readLevel_append_border (room : Nat) {front : List Char} {last : Char}
    (hfront : modeAfter front ≠ .bare) (hlast : modeAfter (front ++ [last]) = .bare)
    (rest : List Char) :
    readLevel room [] (front ++ last :: rest) =
      readLevel room [] (front ++ [last]) ++ readLevel room [] rest := by
  obtain ⟨closed, hregions⟩ := regions_append_border hfront hlast
  have hpieces : ∀ rest', readLevel room [] (front ++ last :: rest') =
      (closed.flatMap Piece.cut).flatMap (Piece.tokens (readGroup room)) ++
        readLevel room [] rest' := by
    intro rest'
    rw [readLevel, ← flatMap_cut_regions, hregions, List.flatMap_append, List.flatMap_append,
      flatMap_cut_regions, readLevel]
  have hnone : readLevel room [] [] = [] := rfl
  rw [hpieces rest, hpieces [], hnone, List.append_nil]

/-! ## Joined texts -/

/-- The last word stands behind all blank text in front. -/
theorem lastWord_blank_append {lead : List Char} (h : isBlank lead = true) (text : List Char) :
    lastWord (lead ++ text) = lastWord text := by
  have hstop : lead.reverse.takeWhile (fun c => !isDelimiter c) = [] := by
    cases hlead : lead.reverse with
    | nil => rfl
    | cons c rest =>
      have hc : isDelimiter c = true :=
        List.all_eq_true.1 h c (List.mem_reverse.1 (by simp [hlead]))
      simp [hc]
  rw [lastWord, lastWord, List.rtakeWhile, List.rtakeWhile, List.reverse_append,
    List.takeWhile_append, hstop, List.append_nil]
  split
  · rename_i hlength
    rw [(List.takeWhile_prefix _).eq_of_length hlength]
  · rfl

/-- A text whose last word is no keyword ends in none, also behind a space and without its blank
end. -/
theorem endsInKeyword_space {body trail : List Char}
    (hbody : body.getLast?.any isDelimiter = false) (htrail : isBlank trail = true)
    (hword : isKeywordWord (lastWord (trim (body ++ trail))) = false) :
    endsInKeyword (' ' :: body) = false := by
  have hlead : isBlank (' ' :: body.takeWhile isDelimiter) = true := by
    simp [isBlank, show isDelimiter ' ' = true from rfl]
  have hlast := lastWord_blank_append hlead (body.dropWhile isDelimiter)
  rw [List.cons_append, List.takeWhile_append_dropWhile] at hlast
  rw [trim_append_blank htrail, trim_eq_dropWhile hbody, ← hlast] at hword
  rw [endsInKeyword, hword, Bool.false_and]

/-- Reading goes on behind an operator. -/
theorem scan_join_operator (room : Nat) {x y : List Char} (hmode : modeAfter x = .bare)
    (hword : isKeywordWord (lastWord (trim x)) = false) (op : Operator)
    (hy : isBlank y = false) :
    scan room (x ++ ' ' :: (op.keyword.toList ++ ' ' :: ' ' :: y)) =
      scan room x ++ .operator op :: scan room y := by
  obtain ⟨body, trail, hbody, htrail, rfl⟩ := exists_append_blank x
  obtain ⟨body', trail', hbody', htrail', rfl⟩ := exists_append_blank y
  rw [modeAfter_append_blank htrail] at hmode
  have hne : body' ≠ [] := by
    rintro rfl
    rw [List.nil_append, htrail'] at hy
    cases hy
  have hspace : modeAfter (' ' :: body) = .bare := hmode
  have hread := readLevel_append_operator room hspace (endsInKeyword_space hbody htrail hword)
    htrail op body'
  have hlast : (body ++ (trail ++ ' ' :: (op.keyword.toList ++ ' ' :: ' ' :: body'))).getLast?.any
      isDelimiter = false := by
    have hend : body ++ (trail ++ ' ' :: (op.keyword.toList ++ ' ' :: ' ' :: body')) =
        (body ++ (trail ++ ' ' :: (op.keyword.toList ++ [' ', ' ']))) ++ body' := by simp
    rw [hend, List.getLast?_append_of_ne_nil _ hne]
    exact hbody'
  have hjoined : body ++ trail ++ ' ' :: (op.keyword.toList ++ ' ' :: ' ' :: (body' ++ trail')) =
      (body ++ (trail ++ ' ' :: (op.keyword.toList ++ ' ' :: ' ' :: body'))) ++ trail' := by simp
  rw [hjoined, scan_append_blank room hlast htrail', scan_append_blank room hbody htrail,
    scan_append_blank room hbody' htrail']
  exact hread

/-- Reading goes on behind a closed phrase or group. -/
theorem scan_join_border (room : Nat) {front y : List Char} {last : Char}
    (hfront : modeAfter front ≠ .bare) (hlast : modeAfter (front ++ [last]) = .bare)
    (hy : AtBoundary y) :
    scan room (front ++ [last] ++ y) = scan room (front ++ [last]) ++ scan room y := by
  obtain ⟨body, trail, hbody, htrail, rfl⟩ := exists_append_blank y
  -- a delimiter would not lead back to bare text
  have hdelimiter : isDelimiter last = false := by
    rw [← Bool.not_eq_true]
    intro hd
    rw [modeAfter_append_blank (by simp [isBlank, hd])] at hlast
    exact hfront hlast
  have hclosed : (front ++ [last]).getLast?.any isDelimiter = false := by simp [hdelimiter]
  have hend : (front ++ [last] ++ body).getLast?.any isDelimiter = false :=
    getLast?_append_any_isDelimiter hclosed hbody
  have hboundary : AtBoundary body := by
    intro c hc
    cases body with
    | nil => cases hc
    | cons x body => exact hy c hc
  have hfront' : modeAfter (' ' :: front) ≠ .bare := hfront
  have hlast' : modeAfter (' ' :: front ++ [last]) = .bare := hlast
  have hread := readLevel_append_border room hfront' hlast' body
  rw [← List.append_assoc, scan_append_blank room hend htrail, scan_append_blank room hbody htrail,
    readLevel_space room hboundary, scan_eq_of_getLast? room hclosed, List.append_assoc]
  exact hread

/-- **Reading is compositional where operands are complete.**  Behind a text that ends as bare text,
and whose last word is no keyword, an operator between its spaces is read and then the text that
follows, if it is not blank.  Behind a text whose last character, a quote or a parenthesis, leads
back to bare text, whatever follows at a boundary is read as if it stood alone. -/
theorem tokenize_join (d : Nat) (x y : String) :
    (modeAfter x.toList = .bare → isKeywordWord (lastWord (trim x.toList)) = false →
        isBlank y.toList = false → ∀ op : Operator,
          (Tokenizer.ofMaxDepth d).tokenize (x ++ " " ++ op.keyword ++ "  " ++ y) =
            (Tokenizer.ofMaxDepth d).tokenize x ++ [.operator op] ++
              (Tokenizer.ofMaxDepth d).tokenize y) ∧
      (∀ front last, x.toList = front ++ [last] → modeAfter front ≠ .bare →
        modeAfter x.toList = .bare → AtBoundary y.toList →
          (Tokenizer.ofMaxDepth d).tokenize (x ++ y) =
            (Tokenizer.ofMaxDepth d).tokenize x ++ (Tokenizer.ofMaxDepth d).tokenize y) := by
  constructor
  · intro hmode hword hy op
    have hread := scan_join_operator (Tokenizer.ofMaxDepth d).maxDepth hmode hword op hy
    simpa [Tokenizer.tokenize] using hread
  · intro front last hx hfront hmode hy
    rw [hx] at hmode
    have hread := scan_join_border (Tokenizer.ofMaxDepth d).maxDepth hfront hmode hy
    simpa [Tokenizer.tokenize, hx] using hread

/-- A keyword inside a phrase in front of the operator and `NOT` behind it; and a group that holds a
quote, with an operator behind it. -/
theorem tokenize_join_keywords :
    modeAfter "a \"b AND\" NOTE\t".toList = .bare ∧
      isKeywordWord (lastWord (trim "a \"b AND\" NOTE\t".toList)) = false ∧
      (Tokenizer.ofMaxDepth 1).tokenize ("a \"b AND\" NOTE\t" ++ " " ++ "AND" ++ "  " ++ "NOT (c") =
        [.bare "a", .phrase "b AND", .bare "NOTE", .operator .and, .operator .not,
          .group [.bare "c"]] ∧
      modeAfter "a OR (\"b".toList = .group 0 ∧ modeAfter "a OR (\"b)".toList = .bare ∧
      (Tokenizer.ofMaxDepth 1).tokenize ("a OR (\"b)" ++ "\tAND NOT c") =
        [.bare "a", .operator .or, .group [.phrase "b"], .operator .andNot, .bare "c"] := by
  have hmode : modeAfter "a \"b AND\" NOTE\t".toList = .bare := by decide +kernel
  have hword : isKeywordWord (lastWord (trim "a \"b AND\" NOTE\t".toList)) = false := by
    decide +kernel
  have hgroup : modeAfter "a OR (\"b".toList = .group 0 := by decide +kernel
  have hclosed : modeAfter "a OR (\"b)".toList = .bare := by decide +kernel
  refine ⟨hmode, hword, ?_, hgroup, hclosed, ?_⟩
  · refine ((tokenize_join 1 _ "NOT (c").1 hmode hword (by decide) .and).trans ?_
    decide +kernel
  · refine ((tokenize_join 1 "a OR (\"b)" "\tAND NOT c").2 "a OR (\"b".toList ')' (by decide)
      (by rw [hgroup]; decide) hclosed ?_).trans ?_
    · exact atBoundary_of_isDelimiter (by decide) _
    · decide +kernel

end BooleanSearch
