import BooleanSearch.Operator
import BooleanSearch.Proofs.Trimming

/-!
# Keywords in running text

When an operator leads a text, and when none does.

* `Operator.leads_iff` — a delimiter, the keyword and another delimiter in front;
* `leading?_eq_none` — no operator leads unless the first word is `AND`, `OR` or `NOT`;
* `leading?_keyword`, `leading?_keyword_iff` — a written operator is found again, unless a `NOT`
  behind it makes a longer keyword;
* `firstWord_append` — a text without keywords among its words keeps them out of its front,
  whatever follows at a boundary.
-/

namespace BooleanSearch

/-! ## Keywords -/

/-- The keywords hold capital letters and single spaces only, so none holds a border. -/
theorem Operator.keyword_ne {op : Operator} {c : Char} (h : c ∈ op.keyword.toList) :
    c ≠ '"' ∧ c ≠ '(' ∧ c ≠ ')' := by
  have hall : op.keyword.toList.all (fun c => c != '"' && c != '(' && c != ')') = true := by
    cases op <;> decide
  have hc := List.all_eq_true.1 hall c h
  simpa [and_assoc] using hc

/-- An operator leads a text that begins with its keyword between two delimiters. -/
theorem Operator.leads_iff (op : Operator) (text : List Char) :
    op.leads text = true ↔ ∃ c d rest, isDelimiter c = true ∧ isDelimiter d = true ∧
      text = c :: (op.keyword.toList ++ d :: rest) := by
  constructor
  · intro h
    cases text with
    | nil => exact absurd h Bool.false_ne_true
    | cons c rest =>
      rw [Operator.leads, Bool.and_eq_true, Bool.and_eq_true, List.isPrefixOf_iff_prefix] at h
      obtain ⟨⟨hc, tail, rfl⟩, hd⟩ := h
      rw [List.drop_left] at hd
      cases tail with
      | nil => exact absurd hd Bool.false_ne_true
      | cons d rest => exact ⟨c, d, rest, hc, hd, rfl⟩
  · intro h
    obtain ⟨c, d, rest, hc, hd, rfl⟩ := h
    rw [Operator.leads, List.drop_left, hc, List.isPrefixOf_iff_prefix.2 (List.prefix_append _ _)]
    exact hd

/-- The operator found in front stands there between two delimiters. -/
theorem Operator.leading?_eq_some {text : List Char} {op : Operator}
    (h : Operator.leading? text = some op) :
    ∃ c d rest, isDelimiter c = true ∧ isDelimiter d = true ∧
      text = c :: (op.keyword.toList ++ d :: rest) := by
  have hlead := List.find?_some (show Operator.all.find? (fun op => op.leads text) = some op from h)
  exact (op.leads_iff text).1 hlead

/-- No operator is found exactly if none leads. -/
theorem Operator.leading?_eq_none_iff (text : List Char) :
    Operator.leading? text = none ↔ ∀ op : Operator, op.leads text = false := by
  rw [Operator.leading?, List.find?_eq_none]
  constructor
  · intro h op
    exact Bool.eq_false_iff.2 (h op (by cases op <;> decide))
  · intro h op _
    rw [h op]
    exact Bool.false_ne_true

/-! ## First words -/

/-- The text up to the first delimiter. -/
def firstWord (text : List Char) : List Char :=
  text.takeWhile fun c => !isDelimiter c

/-- The words of which keywords are made. -/
def isKeywordWord (word : List Char) : Bool :=
  word == "AND".toList || word == "OR".toList || word == "NOT".toList

theorem isKeywordWord_iff (word : List Char) :
    isKeywordWord word = true ↔
      word = "AND".toList ∨ word = "OR".toList ∨ word = "NOT".toList := by
  rw [isKeywordWord, Bool.or_eq_true, Bool.or_eq_true, beq_iff_eq, beq_iff_eq, beq_iff_eq, or_assoc]

theorem isKeywordWord_ne {word : List Char} (h : isKeywordWord word = true) {c : Char}
    (hc : c ∈ word) : c ≠ '"' ∧ c ≠ '(' := by
  have hall : word.all (fun c => c != '"' && c != '(') = true := by
    obtain rfl | rfl | rfl := (isKeywordWord_iff word).1 h <;> decide
  have hne := List.all_eq_true.1 hall c hc
  simpa using hne

/-- A delimiter ends the first word. -/
theorem firstWord_append_delimiter {d : Char} (hd : isDelimiter d = true) (word rest : List Char) :
    firstWord (word ++ d :: rest) = firstWord word := by
  induction word with
  | nil => simp [firstWord, hd]
  | cons c word ih =>
    by_cases hc : isDelimiter c = true
    · simp [firstWord, hc]
    · simp only [firstWord, List.cons_append] at ih ⊢
      rw [List.takeWhile_cons_of_pos (by simp [hc]), List.takeWhile_cons_of_pos (by simp [hc]), ih]

/-- Behind the delimiter of a leading operator stands a word of which keywords are made. -/
theorem Operator.leads_firstWord {op : Operator} {c : Char} {rest : List Char}
    (h : op.leads (c :: rest) = true) : isKeywordWord (firstWord rest) = true := by
  obtain ⟨c', d, tail, -, hd, heq⟩ := (op.leads_iff _).1 h
  obtain ⟨-, rfl⟩ := List.cons.inj heq
  rw [firstWord_append_delimiter hd]
  cases op <;> decide

/-- Without a keyword's word behind the first character, no operator leads. -/
theorem Operator.leading?_eq_none {c : Char} {rest : List Char}
    (h : isKeywordWord (firstWord rest) = false) : Operator.leading? (c :: rest) = none := by
  rw [Operator.leading?_eq_none_iff]
  intro op
  by_contra hlead
  rw [Bool.not_eq_false] at hlead
  rw [Operator.leads_firstWord hlead] at h
  cases h

/-- Without a delimiter in front, no operator leads. -/
theorem Operator.leading?_eq_none_of_not_delimiter {c : Char} {rest : List Char}
    (h : isDelimiter c = false) : Operator.leading? (c :: rest) = none := by
  rw [Operator.leading?_eq_none_iff]
  intro op
  rw [Operator.leads, h, Bool.false_and, Bool.false_and]

/-- Text behind a delimiter begins with the first letter of an operator that leads it. -/
theorem Operator.leads_eq_false_of_head {op : Operator} {c : Char} {rest : List Char}
    (h : op.keyword.toList.head? ≠ rest.head?) : op.leads (c :: rest) = false := by
  rw [← Bool.not_eq_true]
  intro hlead
  obtain ⟨c', d, tail, -, -, heq⟩ := (op.leads_iff _).1 hlead
  obtain ⟨-, rfl⟩ := List.cons.inj heq
  apply h
  cases op <;> rfl

/-- A two-word operator leads text in front of which its first word was written only if `NOT` leads
what follows that word. -/
theorem Operator.leads_eq_false_of_not {op : Operator} {short : List Char} {c d : Char}
    {rest : List Char} (hkey : op.keyword.toList = short ++ ' ' :: "NOT".toList)
    (h : Operator.not.leads (d :: rest) = false) :
    op.leads (c :: (short ++ d :: rest)) = false := by
  rw [← Bool.not_eq_true] at h ⊢
  intro hlead
  obtain ⟨c', d', tail, -, hd', heq⟩ := (op.leads_iff _).1 hlead
  obtain ⟨-, heq⟩ := List.cons.inj heq
  rw [hkey, List.append_assoc, List.append_cancel_left_eq, List.cons_append] at heq
  obtain ⟨rfl, rfl⟩ := List.cons.inj heq
  exact h ((Operator.not.leads_iff _).2 ⟨' ', d', tail, rfl, hd', rfl⟩)

/-- A written operator is found again, unless it is `AND` or `OR` and `NOT` leads what follows. -/
theorem Operator.leading?_keyword (op : Operator) {c d : Char} {rest : List Char}
    (hc : isDelimiter c = true) (hd : isDelimiter d = true)
    (hnot : op.isNegation = false → Operator.not.leads (d :: rest) = false) :
    Operator.leading? (c :: (op.keyword.toList ++ d :: rest)) = some op := by
  have hself : op.leads (c :: (op.keyword.toList ++ d :: rest)) = true :=
    (op.leads_iff _).2 ⟨c, d, rest, hc, hd, rfl⟩
  -- a keyword that is tried earlier differs in its first letter or goes on with `NOT`
  have hletter : ∀ other : Operator, other.keyword.toList.head? ≠ op.keyword.toList.head? →
      other.leads (c :: (op.keyword.toList ++ d :: rest)) = false := by
    intro other hne
    apply Operator.leads_eq_false_of_head
    rw [List.head?_append_of_ne_nil _ (by cases op <;> decide)]
    exact hne
  have hlonger : ∀ other : Operator, op.isNegation = false →
      other.keyword.toList = op.keyword.toList ++ ' ' :: "NOT".toList →
      other.leads (c :: (op.keyword.toList ++ d :: rest)) = false :=
    fun other hop hkey => Operator.leads_eq_false_of_not hkey (hnot hop)
  rw [Operator.leading?, Operator.all]
  cases op with
  | andNot => simp only [List.find?_cons, hself]
  | orNot => simp only [List.find?_cons, hletter .andNot (by decide), hself]
  | and =>
    simp only [List.find?_cons, hlonger .andNot rfl (by decide), hletter .orNot (by decide), hself]
  | or =>
    simp only [List.find?_cons, hletter .andNot (by decide), hlonger .orNot rfl (by decide),
      hletter .and (by decide), hself]
  | not =>
    simp only [List.find?_cons, hletter .andNot (by decide), hletter .orNot (by decide),
      hletter .and (by decide), hletter .or (by decide), hself]

/-- Between spaces the condition is exact: `NOT` behind `AND` or `OR` makes the longer keyword. -/
theorem Operator.leading?_keyword_iff (op : Operator) (rest : List Char) :
    Operator.leading? (' ' :: (op.keyword.toList ++ ' ' :: rest)) = some op ↔
      op.isNegation = true ∨ Operator.not.leads (' ' :: rest) = false := by
  constructor
  · intro h
    rw [or_iff_not_imp_right, Bool.not_eq_false]
    intro hnot
    obtain ⟨c, d, tail, -, hd, heq⟩ := (Operator.not.leads_iff _).1 hnot
    obtain ⟨-, rfl⟩ := List.cons.inj heq
    -- the longer keyword is tried first
    have hlonger : ∀ long : Operator, long.isNegation = true →
        long.keyword.toList = op.keyword.toList ++ ' ' :: Operator.not.keyword.toList →
        long = op := by
      intro long hneg hkey
      have hlead : Operator.leading? (' ' :: (long.keyword.toList ++ d :: tail)) = some long := by
        refine Operator.leading?_keyword long rfl hd fun hfalse => ?_
        rw [hneg] at hfalse
        cases hfalse
      rw [hkey, List.append_assoc, List.cons_append, h] at hlead
      exact (Option.some.inj hlead).symm
    cases op with
    | and => cases hlonger .andNot rfl rfl
    | or => cases hlonger .orNot rfl rfl
    | _ => rfl
  · intro h
    refine Operator.leading?_keyword op rfl rfl fun hfalse => h.resolve_left ?_
    rw [hfalse]
    exact Bool.false_ne_true

/-! ## Words -/

/-- The words of a text: the stretches between its delimiters. -/
def words (text : List Char) : List (List Char) :=
  text.splitOnP isDelimiter

theorem words_append_delimiter {d : Char} (hd : isDelimiter d = true) (text rest : List Char) :
    words (text ++ d :: rest) = words text ++ words rest :=
  List.splitOnP_append_cons text rest hd

/-- The first word is one of the words. -/
theorem firstWord_mem_words (text : List Char) : firstWord text ∈ words text := by
  have hword : ∀ c ∈ firstWord text, isDelimiter c = false := by
    intro c hc
    simpa using List.all_eq_true.1 List.all_takeWhile c hc
  have hsplit : firstWord text ++ text.dropWhile (fun c => !isDelimiter c) = text :=
    List.takeWhile_append_dropWhile
  cases hrest : text.dropWhile (fun c => !isDelimiter c) with
  | nil =>
    rw [hrest, List.append_nil] at hsplit
    rw [hsplit] at hword
    rw [hsplit, words, List.splitOnP_eq_singleton hword]
    exact List.mem_singleton_self _
  | cons d rest =>
    have hd : isDelimiter d = true := by
      have hnot := List.head?_dropWhile_not (fun c => !isDelimiter c) text
      rw [hrest] at hnot
      simpa using hnot
    have hcons : words text = firstWord text :: words rest := by
      calc words text = words (firstWord text ++ d :: rest) := by rw [← hrest, hsplit]
        _ = firstWord text :: words rest :=
          List.splitOnP_append_cons_of_forall_mem hword d hd rest
    rw [hcons]
    exact List.mem_cons_self

/-- Text may stop here: it ends, or a delimiter, a quote or an opening parenthesis follows. -/
def AtBoundary (rest : List Char) : Prop :=
  ∀ c ∈ rest.head?, isDelimiter c = true ∨ c = '"' ∨ c = '('

/-- A text without keywords among its words has none in front, whatever follows at a boundary. -/
theorem firstWord_append {text rest : List Char}
    (hwords : (words text).any isKeywordWord = false) (hrest : AtBoundary rest) :
    isKeywordWord (firstWord (text ++ rest)) = false := by
  have hfirst : isKeywordWord (firstWord text) = false :=
    Bool.eq_false_iff.2 (List.any_eq_false.1 hwords _ (firstWord_mem_words text))
  rw [firstWord, List.takeWhile_append]
  split
  · -- the text is one word, which goes on into what follows unless a delimiter stands there
    rename_i hlen
    have hfront : firstWord text <+: text := List.takeWhile_prefix _
    have hone : firstWord text = text := hfront.eq_of_length hlen
    rw [← Bool.not_eq_true]
    intro hkey
    cases rest with
    | nil =>
      rw [List.takeWhile_nil, List.append_nil] at hkey
      rw [hone, hkey] at hfirst
      cases hfirst
    | cons c rest =>
      obtain hc | hc := hrest c rfl
      · rw [List.takeWhile_cons_of_neg (by simp [hc]), List.append_nil] at hkey
        rw [hone, hkey] at hfirst
        cases hfirst
      · have hmem : c ∈ text ++ List.takeWhile (fun c => !isDelimiter c) (c :: rest) := by
          obtain rfl | rfl := hc <;> simp [isDelimiter]
        have hne := isKeywordWord_ne hkey hmem
        exact hc.elim hne.1 hne.2
  · exact hfirst

/-- Inside a text without keywords among its words no operator leads. -/
theorem Operator.leading?_eq_none_of_words {front rest : List Char} {c : Char} {text : List Char}
    (hwords : (words (front ++ c :: text)).any isKeywordWord = false)
    (hrest : AtBoundary rest) : Operator.leading? (c :: (text ++ rest)) = none := by
  by_cases hc : isDelimiter c = true
  · apply Operator.leading?_eq_none
    rw [words_append_delimiter hc, List.any_append, Bool.or_eq_false_iff] at hwords
    exact firstWord_append hwords.2 hrest
  · exact Operator.leading?_eq_none_of_not_delimiter (eq_false_of_ne_true hc)

end BooleanSearch
