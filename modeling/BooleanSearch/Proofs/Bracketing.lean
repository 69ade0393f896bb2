import Mathlib.Data.List.MinMax
import Mathlib.Order.Nat
import BooleanSearch.Proofs.KeptTerm

/-!
# Parentheses around a text and at its end

Parentheses around a balanced text make it one group, which takes one level of the depth limit.
Parentheses and quotes that are missing at the end of a text are closed there, and the reading is
the same as if they had been written.

* `tokens_group_succ` — a group is read as its text is, with one level less of room;
* `tokenize_bracketed` — a balanced text in parentheses;
* `openCount`, `openDepth` — how many parentheses are open behind a text, and at most within it;
* `Mode.ofOpen`, `modeAfter_eq_ofOpen` — without quotes the automaton does nothing but count them;
* `scan_append_close` — the parentheses that are missing go into the last group of a level;
* `scan_close_iff` — all of them are closed exactly if no more than one of them is left where the
  room for groups ends, by induction on that room;
* `tokenize_closed` — missing quotes and parentheses for a reader with its limit, with
  `tokenize_closed_clamped` for parentheses that no limit leaves room for.
-/

namespace BooleanSearch

/-! ## One group -/

theorem scan_trim (room : Nat) (text : List Char) : scan room (trim text) = scan room text := by
  rw [scan_eq, trim_trim, ← scan_eq]

theorem scan_of_isBlank (room : Nat) {text : List Char} (h : isBlank text = true) :
    scan room text = [] := by
  rw [scan_eq, (trim_eq_nil_iff text).2 h]
  rfl

/-- **A group is read as its text is**, with one level less of room; it vanishes if that reads to
nothing. -/
theorem tokens_group_succ (room : Nat) (inner : List Char) :
    (Piece.group inner).tokens (readGroup (room + 1)) = (scan room inner).asGroup := by
  rw [Piece.tokens]
  split
  · rename_i hblank
    rw [scan_of_isBlank room hblank]
    rfl
  · show (scan room (trim inner)).asGroup = _
    rw [scan_trim]

/-- **Parentheses around a balanced text consume one level of the limit.**  With room for a group
the text is read inside it under a limit lower by one; with none it stays a term as it is, trimmed
and in its parentheses.  Where nothing is read, the group vanishes. -/
theorem tokenize_bracketed {x : String} (hx : Balanced x.toList) :
    (∀ d, 1 ≤ d → d ≤ 256 →
      (Tokenizer.ofMaxDepth d).tokenize ("(" ++ x ++ ")") =
        if (Tokenizer.ofMaxDepth (d - 1)).tokenize x = [] then []
        else [.group ((Tokenizer.ofMaxDepth (d - 1)).tokenize x)]) ∧
      (Tokenizer.ofMaxDepth 0).tokenize ("(" ++ x ++ ")") =
        if isBlank x.toList then []
        else [.bare ("(" ++ String.ofList (trim x.toList) ++ ")")] := by
  have htext : ("(" ++ x ++ ")").toList = bracketed x.toList := by simp [bracketed]
  constructor
  · intro d hpos hle
    obtain ⟨room, rfl⟩ : ∃ room, d = room + 1 := ⟨d - 1, by omega⟩
    have hlimit : (Tokenizer.ofMaxDepth (room + 1)).maxDepth = room + 1 := Nat.min_eq_left hle
    have hlimit' : (Tokenizer.ofMaxDepth (room + 1 - 1)).maxDepth = room :=
      Nat.min_eq_left (by show room ≤ 256; omega)
    rw [Tokenizer.tokenize, Tokenizer.tokenize, htext, hlimit, hlimit',
      scan_bracketed_of_balanced _ hx, tokens_group_succ]
    cases scan room x.toList with
    | nil => rfl
    | cons t ts => rfl
  · have hlimit : (Tokenizer.ofMaxDepth 0).maxDepth = 0 := rfl
    rw [Tokenizer.tokenize, htext, hlimit, scan_bracketed_of_balanced _ hx, Piece.tokens,
      ← ofList_bracketed]
    rfl

/-- Parentheses inside quotes count like any others, and groups inside a text share its limit. -/
theorem tokenize_bracketed_quoted :
    Balanced "\"(\" OR c) AND ((d)) ".toList ∧
      (Tokenizer.ofMaxDepth 2).tokenize "(\"(\" OR c) AND ((d)) )" =
        [.group [.phrase "(", .operator .or, .bare "c)", .operator .and, .group [.bare "(d)"]]] ∧
      (Tokenizer.ofMaxDepth 0).tokenize "(\"(\" OR c) AND ((d)) )" =
        [.bare "(\"(\" OR c) AND ((d)))"] := by
  have hbalanced : Balanced "\"(\" OR c) AND ((d)) ".toList := by decide +kernel
  refine ⟨hbalanced, ?_, ?_⟩
  · refine ((tokenize_bracketed hbalanced).1 2 (by decide) (by decide)).trans ?_
    decide +kernel
  · refine (tokenize_bracketed hbalanced).2.trans ?_
    decide +kernel

/-! ## Open parentheses -/

/-- How many parentheses are open behind a character if `n` are open before it.  One that closes
where none is open is ignored. -/
def openStep (n : Nat) (c : Char) : Nat :=
  if c = '(' then n + 1 else if c = ')' then n - 1 else n

/-- How many parentheses are open behind a text. -/
def openCount (text : List Char) : Nat :=
  text.foldl openStep 0

/-- The largest number of parentheses that are open at once. -/
def openDepth (text : List Char) : Nat :=
  (text.inits.map openCount).foldr max 0

theorem openCount_le_openDepth (text : List Char) : openCount text ≤ openDepth text := by
  have hmem : openCount text ∈ text.inits.map openCount :=
    List.mem_map_of_mem ((List.mem_inits text text).2 List.prefix_rfl)
  exact List.le_max_of_le hmem (Nat.le_refl _)

/-- No more parentheses are open than the text has opened. -/
theorem foldl_openStep_le (n : Nat) (text : List Char) :
    text.foldl openStep n ≤ n + text.count '(' := by
  induction text generalizing n with
  | nil => exact Nat.le_refl n
  | cons c text ih =>
    have hrest := ih (openStep n c)
    rw [List.foldl_cons, List.count_cons]
    by_cases hopen : c = '('
    · simp only [openStep, hopen, if_true, beq_self_eq_true] at hrest ⊢
      omega
    · have hstep : openStep n c ≤ n := by
        simp only [openStep, hopen, if_false]
        split <;> omega
      omega

theorem openDepth_le_count (text : List Char) : openDepth text ≤ text.count '(' := by
  refine List.max_le_of_forall_le _ _ fun k hk => ?_
  obtain ⟨front, hfront, rfl⟩ := List.mem_map.1 hk
  have hle : openCount front ≤ _ := foldl_openStep_le 0 front
  have hcount := ((List.mem_inits front text).1 hfront).sublist.count_le '('
  omega

/-- Where a text closes nothing it did not open, its parentheses add up. -/
theorem ClosesWithin.foldl_openStep {text : List Char} (h : ClosesWithin text) (n : Nat) :
    text.foldl openStep n + text.count ')' = n + text.count '(' := by
  induction text using List.reverseRecOn with
  | nil => rfl
  | append_singleton text c ih =>
    have hrest := ih fun front hfront => h front (hfront.trans (List.prefix_append _ _))
    have hle := h _ List.prefix_rfl
    rw [List.foldl_append, List.foldl_cons, List.foldl_nil]
    by_cases hopen : c = '('
    · simp [openStep, hopen]
      omega
    by_cases hclose : c = ')'
    · simp [openStep, hclose] at hle ⊢
      omega
    · simp [openStep, List.count_append, hopen, hclose]
      omega

/-- The state of the automaton in which `n` parentheses are open. -/
def Mode.ofOpen : Nat → Mode
  | 0 => .bare
  | n + 1 => .group n

/-- Outside quotes, one step of the automaton is one step of counting. -/
theorem Mode.next_ofOpen {c : Char} (hc : c ≠ '"') (n : Nat) :
    (Mode.ofOpen n).next c = Mode.ofOpen (openStep n c) := by
  by_cases hopen : c = '('
  · subst hopen
    cases n <;> rfl
  by_cases hclose : c = ')'
  · subst hclose
    rcases n with _ | _ | n <;> rfl
  · cases n <;> simp [Mode.ofOpen, Mode.next, openStep, hc, hopen, hclose]

/-- **Without quotes the automaton only counts** open parentheses. -/
theorem modeAfter_eq_ofOpen {text : List Char} (h : '"' ∉ text) :
    modeAfter text = Mode.ofOpen (openCount text) := by
  have hrun : ∀ n, text.foldl Mode.next (Mode.ofOpen n) = Mode.ofOpen (text.foldl openStep n) := by
    induction text with
    | nil => intro n; rfl
    | cons c text ih =>
      intro n
      obtain ⟨hc, htext⟩ : '"' ≠ c ∧ '"' ∉ text := by simpa using h
      rw [List.foldl_cons, Mode.next_ofOpen hc.symm, ih htext, List.foldl_cons]
  exact hrun 0

/-! ## A group that the text leaves open -/

/-- With the parentheses that are open in it closed, the text of a group is balanced. -/
theorem Mode.Counts.balanced {inner : List Char} {n : Nat} (h : (Mode.group n).Counts inner) :
    Balanced (inner ++ List.replicate n ')') := by
  induction n generalizing inner with
  | zero =>
    obtain ⟨hcloses, hcount⟩ := h
    rw [List.replicate_zero, List.append_nil]
    exact ⟨hcloses, by omega⟩
  | succ n ih =>
    -- the next parenthesis closes one of those that are open, and not the group
    have hborder : (Mode.group (n + 1)).isBorder ')' = false := by simp [Mode.isBorder]
    have hclosed : (Mode.group n).Counts (inner ++ [')']) := Mode.counts_step hborder h
    rw [List.replicate_succ, ← List.singleton_append, ← List.append_assoc]
    exact ih hclosed

/-- A level is read up to a group that is opened in bare text, and then from there. -/
theorem readLevel_append_open (room : Nat) {front : List Char} (h : modeAfter front = .bare) :
    ∃ before, ∀ rest, readLevel room [] (front ++ '(' :: rest) =
      before ++ readLevel room [] ('(' :: rest) := by
  obtain ⟨closed, held, -, hregions⟩ := regions_append .bare [] front
  rw [show front.foldl Mode.next .bare = .bare from h] at hregions
  refine ⟨((closed ++ [Piece.bare held.reverse]).flatMap Piece.cut).flatMap
    (Piece.tokens (readGroup room)), fun rest => ?_⟩
  have hopen : ∀ held', regions .bare held' ('(' :: rest) =
      .bare held'.reverse :: regions (.group 0) [] rest :=
    fun held' => @regions_border .bare '(' rfl held' rest
  rw [readLevel, ← flatMap_cut_regions, hregions, hopen, readLevel, ← flatMap_cut_regions, hopen,
    List.append_cons closed, List.flatMap_append, List.flatMap_append]
  rfl

/-- **The parentheses that are missing go into the last group** of a level, where all but one of
them close what is open inside it.  The rest of the level is read alike. -/
theorem scan_append_close (room : Nat) {text : List Char} {n : Nat}
    (h : modeAfter text = .group n) :
    ∃ front inner before, text = front ++ '(' :: inner ∧ modeAfter front = .bare ∧
      (Mode.group n).Counts inner ∧
      scan room text = before ++ (Piece.group inner).tokens (readGroup room) ∧
      scan room (text ++ List.replicate (n + 1) ')') =
        before ++ (Piece.group (inner ++ List.replicate n ')')).tokens (readGroup room) := by
  obtain ⟨front, inner, rfl, hfront, hcounts⟩ := exists_of_modeAfter_group h
  have hspace : modeAfter (' ' :: front) = .bare := hfront
  obtain ⟨before, hread⟩ := readLevel_append_open room hspace
  refine ⟨front, inner, before, rfl, hfront, hcounts, ?_, ?_⟩
  · -- blank text at the end of the level is read neither there nor at the end of the group
    obtain ⟨body, trail, hbody, htrail, rfl⟩ := exists_append_blank inner
    have hlast : (front ++ ['('] ++ body).getLast?.any isDelimiter = false :=
      getLast?_append_any_isDelimiter (by simp; rfl) hbody
    have hcloses : ClosesWithin body := fun p hp => hcounts.1 p (hp.trans (List.prefix_append _ _))
    have hgroup := Piece.tokens_congr (.inr rfl) (trim_append_blank htrail body) (readGroup room)
    rw [show front ++ '(' :: (body ++ trail) = front ++ ['('] ++ body ++ trail from by simp,
      scan_append_blank room hlast htrail,
      show ' ' :: (front ++ ['('] ++ body) = ' ' :: front ++ '(' :: body from by simp, hread,
      readLevel_open room hcloses, hgroup]
  · have hlast : (front ++ '(' :: (inner ++ List.replicate n ')') ++ [')']).getLast?.any
        isDelimiter = false := by
      rw [List.getLast?_concat]
      rfl
    rw [show front ++ '(' :: inner ++ List.replicate (n + 1) ')' =
        front ++ '(' :: (inner ++ List.replicate n ')') ++ [')'] from by
          simp [List.replicate_succ'],
      scan_eq_of_getLast? room hlast,
      show ' ' :: (front ++ '(' :: (inner ++ List.replicate n ')') ++ [')']) =
        ' ' :: front ++ '(' :: (inner ++ List.replicate n ')' ++ [')']) from by simp, hread,
      readLevel_closed room hcounts.balanced]

/-- In the text of a group as many parentheses are open as the state of the automaton says. -/
theorem Mode.Counts.openCount_eq {inner : List Char} {n : Nat}
    (h : (Mode.group n).Counts inner) : openCount inner = n := by
  obtain ⟨hcloses, hcount⟩ := h
  have hadd : openCount inner + _ = _ := hcloses.foldl_openStep 0
  omega

/-- A level without quotes is read alike with and without its missing parentheses exactly if its
last group is, in which one less of them is open. -/
theorem scan_close_iff_group (room : Nat) {text : List Char} {n : Nat} (hquote : '"' ∉ text)
    (hcount : openCount text = n + 1) :
    ∃ inner, '"' ∉ inner ∧ (Mode.group n).Counts inner ∧
      (scan room (text ++ List.replicate (n + 1) ')') = scan room text ↔
        (Piece.group (inner ++ List.replicate n ')')).tokens (readGroup room) =
          (Piece.group inner).tokens (readGroup room)) := by
  have hmode : modeAfter text = .group n := by
    rw [modeAfter_eq_ofOpen hquote, hcount]
    rfl
  obtain ⟨front, inner, before, rfl, -, hcounts, hread, hclosed⟩ := scan_append_close room hmode
  have hinner : '"' ∉ inner := fun h => hquote (by simp [h])
  refine ⟨inner, hinner, hcounts, ?_⟩
  rw [hclosed, hread, List.append_cancel_left_eq]

/-- Where a parenthesis is open in the text of a group, the text is not blank, whatever follows. -/
theorem Mode.Counts.isBlank_append {inner : List Char} {n : Nat} (h : (Mode.group n).Counts inner)
    (hn : n ≠ 0) (trail : List Char) : isBlank (inner ++ trail) = false := by
  refine Bool.eq_false_iff.2 fun hblank => ?_
  have hnone := (count_of_isBlank hblank).1
  have htotal := h.2
  rw [List.count_append] at hnone
  omega

/-- A group whose text is kept is closed once, so it shows every parenthesis that was written in
it. -/
theorem tokens_group_zero_close_iff {inner : List Char} {n : Nat}
    (hcounts : (Mode.group n).Counts inner) :
    (Piece.group (inner ++ List.replicate n ')')).tokens (readGroup 0) =
        (Piece.group inner).tokens (readGroup 0) ↔ n = 0 := by
  constructor
  · intro h
    by_contra hn
    have hinner : isBlank inner = false := by simpa using hcounts.isBlank_append hn []
    rw [Piece.tokens, Piece.tokens, hcounts.isBlank_append hn, hinner,
      if_neg Bool.false_ne_true, if_neg Bool.false_ne_true, readGroup, readGroup] at h
    have htrim : trim (inner ++ List.replicate n ')') = trim inner := by
      simpa [bracketed, String.ofList_inj] using h
    have hcloses := congrArg (List.count ')') htrim
    rw [(count_trim _).2, (count_trim _).2, List.count_append, List.count_replicate_self] at hcloses
    omega
  · rintro rfl
    rw [List.replicate_zero, List.append_nil]

/-- **Parentheses that are missing at the end are closed there** exactly if no more than one of them
is open where the room for groups ends, by induction on that room. -/
theorem scan_close_iff (room : Nat) {text : List Char} (hquote : '"' ∉ text) :
    scan room (text ++ List.replicate (openCount text) ')') = scan room text ↔
      openCount text ≤ room + 1 := by
  induction room generalizing text with
  | zero =>
    cases hcount : openCount text with
    | zero => simp
    | succ n =>
      obtain ⟨inner, -, hcounts, hiff⟩ := scan_close_iff_group 0 hquote hcount
      rw [hiff, tokens_group_zero_close_iff hcounts]
      omega
  | succ room ih =>
    cases hcount : openCount text with
    | zero => simp
    | succ n =>
      obtain ⟨inner, hinner, hcounts, hiff⟩ := scan_close_iff_group (room + 1) hquote hcount
      have hread := ih hinner
      rw [hcounts.openCount_eq] at hread
      rw [hiff, tokens_group_succ, tokens_group_succ, Expression.asGroup_inj, hread]
      omega

/-- A phrase that the text leaves open is closed at its end. -/
theorem scan_close_phrase (room : Nat) {text : List Char} (hmode : modeAfter text = .phrase)
    (hlast : text.getLast?.any isDelimiter = false) :
    scan room (text ++ ['"']) = scan room text := by
  obtain ⟨closed, held, -, hregions⟩ := regions_append .bare [] (' ' :: text)
  rw [show (' ' :: text).foldl Mode.next .bare = .phrase from hmode] at hregions
  have hopen := hregions []
  rw [List.append_nil] at hopen
  have hlast' : (text ++ ['"']).getLast?.any isDelimiter = false := by
    rw [List.getLast?_concat]
    rfl
  -- the quote ends the phrase, and no bare text follows
  rw [scan_eq_of_getLast? room hlast', scan_eq_of_getLast? room hlast, ← List.cons_append,
    readLevel, readLevel, ← flatMap_cut_regions, ← flatMap_cut_regions, hregions, hopen]
  simp only [List.flatMap_append]
  rfl

/-! ## Texts that are closed at their end -/

/-- The parentheses that are missing may be left out exactly if they are not more than the limit in
force and one. -/
theorem tokenize_close_iff (d : Nat) (text : String) (hquote : '"' ∉ text.toList) :
    (Tokenizer.ofMaxDepth d).tokenize
          (text ++ String.ofList (List.replicate (openCount text.toList) ')')) =
        (Tokenizer.ofMaxDepth d).tokenize text ↔
      openCount text.toList ≤ min d 256 + 1 := by
  rw [Tokenizer.tokenize, Tokenizer.tokenize, String.toList_append, String.toList_ofList]
  exact scan_close_iff (Tokenizer.ofMaxDepth d).maxDepth hquote

/-- **Closing at the end of a text is implicit.**  A quote that ends a phrase may be left out behind
a text that does not end in a delimiter.  In a text without quotes the parentheses that are open at
its end may be left out, whatever the limit that is asked for, if it is not lower than the number of
parentheses open at once and no more are left out than the ceiling of all limits leaves room for.
How many are open at once further in front makes no difference: they may be left out exactly if they
are not more than the limit in force and one. -/
theorem tokenize_closed (d : Nat) (text : String) :
    (modeAfter text.toList = .phrase → text.toList.getLast?.any isDelimiter = false →
        (Tokenizer.ofMaxDepth d).tokenize (text ++ "\"") =
          (Tokenizer.ofMaxDepth d).tokenize text) ∧
      ('"' ∉ text.toList → openDepth text.toList ≤ d → openCount text.toList ≤ 257 →
        (Tokenizer.ofMaxDepth d).tokenize
            (text ++ String.ofList (List.replicate (openCount text.toList) ')')) =
          (Tokenizer.ofMaxDepth d).tokenize text) ∧
      ('"' ∉ text.toList →
        ((Tokenizer.ofMaxDepth d).tokenize
              (text ++ String.ofList (List.replicate (openCount text.toList) ')')) =
            (Tokenizer.ofMaxDepth d).tokenize text ↔
          openCount text.toList ≤ min d 256 + 1)) := by
  have hiff := tokenize_close_iff d text
  refine ⟨fun hmode hlast => ?_, fun hquote hlimit hceiling => ?_, hiff⟩
  · have hread := scan_close_phrase (Tokenizer.ofMaxDepth d).maxDepth hmode hlast
    simpa [Tokenizer.tokenize] using hread
  · have hopen := openCount_le_openDepth text.toList
    refine (hiff hquote).2 ?_
    omega

/-- A phrase behind a group that holds a quote; two groups left open behind a stray parenthesis,
with a keyword and a delimiter at the end; more parentheses at once than any limit leaves room for,
all closed but one; and one more left open than there is room for. -/
theorem tokenize_closed_groups :
    modeAfter "(x \"y) AND \"b (c".toList = .phrase ∧
      (Tokenizer.ofMaxDepth 1).tokenize ("(x \"y) AND \"b (c" ++ "\"") =
        [.group [.bare "x", .phrase "y"], .operator .and, .phrase "b (c"] ∧
      '"' ∉ "a) OR (b (c) NOT (d AND ".toList ∧ openDepth "a) OR (b (c) NOT (d AND ".toList = 2 ∧
      openCount "a) OR (b (c) NOT (d AND ".toList = 2 ∧
      (Tokenizer.ofMaxDepth 2).tokenize ("a) OR (b (c) NOT (d AND " ++ "))") =
        [.bare "a)", .operator .or, .group [.bare "b", .group [.bare "c"], .operator .not,
          .group [.bare "d AND"]]] ∧
      openCount (List.replicate 258 '(' ++ 'a' :: List.replicate 257 ')') = 1 ∧
      (Tokenizer.ofMaxDepth 258).tokenize
          (String.ofList (List.replicate 258 '(' ++ 'a' :: List.replicate 257 ')') ++ ")") =
        (Tokenizer.ofMaxDepth 258).tokenize
          (String.ofList (List.replicate 258 '(' ++ 'a' :: List.replicate 257 ')')) ∧
      (Tokenizer.ofMaxDepth 0).tokenize ("((a" ++ "))") ≠
        (Tokenizer.ofMaxDepth 0).tokenize "((a" := by
  have hmode : modeAfter "(x \"y) AND \"b (c".toList = .phrase := by decide +kernel
  have hquote : '"' ∉ "a) OR (b (c) NOT (d AND ".toList := by decide +kernel
  have hdepth : openDepth "a) OR (b (c) NOT (d AND ".toList = 2 := by decide +kernel
  have hcount : openCount "a) OR (b (c) NOT (d AND ".toList = 2 := by decide +kernel
  have hdeep : openCount (List.replicate 258 '(' ++ 'a' :: List.replicate 257 ')') = 1 := by
    decide +kernel
  refine ⟨hmode, ?_, hquote, hdepth, hcount, ?_, hdeep, ?_, ?_⟩
  · refine ((tokenize_closed 1 "(x \"y) AND \"b (c").1 hmode (by decide +kernel)).trans ?_
    decide +kernel
  · have hread := (tokenize_closed 2 "a) OR (b (c) NOT (d AND ").2.1 hquote (by omega) (by omega)
    rw [hcount] at hread
    refine hread.trans ?_
    decide +kernel
  · have hlimit : openDepth (List.replicate 258 '(' ++ 'a' :: List.replicate 257 ')') ≤ 258 := by
      refine (openDepth_le_count _).trans (Nat.le_of_eq ?_)
      decide +kernel
    have hread := (tokenize_closed 258
      (String.ofList (List.replicate 258 '(' ++ 'a' :: List.replicate 257 ')'))).2.1
    rw [String.toList_ofList, hdeep] at hread
    exact hread (by decide +kernel) hlimit (by decide)
  · intro heq
    have hroom := ((tokenize_closed 0 "((a").2.2 (by decide +kernel)).1 heq
    exact absurd hroom (by decide +kernel)

/-- Above the ceiling a higher limit leaves no more room.  Here the limit that is asked for is not
lower than the number of parentheses open at once, and yet those that are missing at the end of the
text are not all closed there. -/
theorem tokenize_closed_clamped :
    '"' ∉ List.replicate 258 '(' ++ ['a'] ∧ openDepth (List.replicate 258 '(' ++ ['a']) = 258 ∧
      openCount (List.replicate 258 '(' ++ ['a']) = 258 ∧
      (Tokenizer.ofMaxDepth 258).tokenize (String.ofList (List.replicate 258 '(' ++ ['a']) ++
          String.ofList (List.replicate 258 ')')) ≠
        (Tokenizer.ofMaxDepth 258).tokenize (String.ofList (List.replicate 258 '(' ++ ['a'])) ∧
      ¬∀ (d : Nat) (text : String), '"' ∉ text.toList → openDepth text.toList ≤ d →
        (Tokenizer.ofMaxDepth d).tokenize
            (text ++ String.ofList (List.replicate (openCount text.toList) ')')) =
          (Tokenizer.ofMaxDepth d).tokenize text := by
  have hquote : '"' ∉ List.replicate 258 '(' ++ ['a'] := by decide +kernel
  have hcount : openCount (List.replicate 258 '(' ++ ['a']) = 258 := by decide +kernel
  have hdepth : openDepth (List.replicate 258 '(' ++ ['a']) = 258 := by
    have hle := openDepth_le_count (List.replicate 258 '(' ++ ['a'])
    have hge := openCount_le_openDepth (List.replicate 258 '(' ++ ['a'])
    rw [List.count_append, List.count_replicate_self] at hle
    rw [hcount] at hge
    exact Nat.le_antisymm hle hge
  have hne : (Tokenizer.ofMaxDepth 258).tokenize (String.ofList (List.replicate 258 '(' ++ ['a']) ++
        String.ofList (List.replicate 258 ')')) ≠
      (Tokenizer.ofMaxDepth 258).tokenize (String.ofList (List.replicate 258 '(' ++ ['a'])) := by
    have hiff := tokenize_close_iff 258 (String.ofList (List.replicate 258 '(' ++ ['a']))
    rw [String.toList_ofList, hcount] at hiff
    exact fun heq => absurd ((hiff hquote).1 heq) (by decide)
  refine ⟨hquote, hdepth, hcount, hne, fun h => ?_⟩
  have hsame := h 258 (String.ofList (List.replicate 258 '(' ++ ['a']))
  rw [String.toList_ofList, hcount] at hsame
  exact hne (hsame hquote (Nat.le_of_eq hdepth))

end BooleanSearch
