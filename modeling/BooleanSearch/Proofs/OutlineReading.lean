import BooleanSearch.Outline
import Mathlib.Data.List.Basic

/-!
# Reading an outline

An outline shows a tree by lines and indentation alone.  Whoever has it can tell where each line
ends, how deep its token stands and what the token is, whatever the texts hold; and from that the
tree.

* `readOutlineChar`, `readOutlineChar_escape` — an escaped character is read as itself, so
  `quotedText_injective`: quoted texts are equal only if the texts are;
* `OutlineRow`, `OutlineRow.line` — a line by its depth and what it says;
* `OutlineRow.line_injective`, `OutlineRow.not_mem_line` — a line gives both away and breaks
  nowhere;
* `Expression.rows`, `splitOn_outline` — the lines of an outline are the rows of the expression;
* `assemble`, `Expression.assemble_rows` — the tree from its rows: a row takes the deeper ones
  behind it as its children;
* `outline_eq_iff` — the statement for whole outlines.
-/

namespace BooleanSearch

/-! ## Hexadecimal numbers -/

/-- The value of a run of hexadecimal digits, most significant first. -/
def hexValue (digits : List Char) : Nat :=
  digits.foldl (fun n c => 16 * n + (hexDigit? c).getD 0) 0

theorem hexValue_concat (digits : List Char) (c : Char) :
    hexValue (digits ++ [c]) = 16 * hexValue digits + (hexDigit? c).getD 0 := by
  simp [hexValue]

theorem hexDigit?_digitChar : ∀ n < 16, hexDigit? (Nat.digitChar n) = some n := by
  decide

/-- The digits of a number are its last digit behind those of its sixteenth part. -/
theorem hexDigits_eq (n : Nat) :
    hexDigits n =
      if n < 16 then [Nat.digitChar n] else hexDigits (n / 16) ++ [Nat.digitChar (n % 16)] :=
  Nat.toDigits_eq_if (by decide)

theorem hexValue_hexDigits (n : Nat) : hexValue (hexDigits n) = n := by
  induction n using Nat.strongRecOn with
  | ind n ih =>
    rw [hexDigits_eq]
    split
    · rename_i hn
      simp [hexValue, hexDigit?_digitChar n hn]
    · rename_i hn
      rw [hexValue_concat, ih (n / 16) (by omega), hexDigit?_digitChar (n % 16) (by omega),
        Option.getD_some]
      omega

theorem exists_digitChar_of_mem_hexDigits {n : Nat} {c : Char} (h : c ∈ hexDigits n) :
    ∃ d < 16, c = Nat.digitChar d := by
  induction n using Nat.strongRecOn with
  | ind n ih =>
    rw [hexDigits_eq] at h
    split at h
    · rename_i hn
      exact ⟨n, hn, List.mem_singleton.1 h⟩
    · rename_i hn
      rcases List.mem_append.1 h with hfront | hlast
      · exact ih (n / 16) (by omega) hfront
      · exact ⟨n % 16, by omega, List.mem_singleton.1 hlast⟩

/-- No digit closes the number or breaks the line. -/
theorem ne_of_mem_hexDigits {n : Nat} {c : Char} (h : c ∈ hexDigits n) : c ≠ '\x7d' ∧ c ≠ '\n' := by
  obtain ⟨d, hd, rfl⟩ := exists_digitChar_of_mem_hexDigits h
  have hdigits : ∀ d < 16, Nat.digitChar d ≠ '\x7d' ∧ Nat.digitChar d ≠ '\n' := by decide
  exact hdigits d hd

/-! ## Quoted texts -/

/-- The character that a backslash and `c` stand for. -/
def outlineUnescape (c : Char) : Char :=
  if c = '0' then '\x00'
  else if c = 't' then '\t'
  else if c = 'n' then '\n'
  else if c = 'r' then '\r'
  else c

/-- Reads one character of a quoted text: itself, or an escape by name or by number. -/
def readOutlineChar : List Char → Option (Char × List Char)
  | [] => none
  | c :: rest =>
    if c = '\\' then
      match rest with
      | [] => none
      | b :: rest =>
        if b = 'u' then
          some (Char.ofNat (hexValue (rest.tail.takeWhile (· != '\x7d'))),
            (rest.tail.dropWhile (· != '\x7d')).tail)
        else some (outlineUnescape b, rest)
    else some (c, rest)

/-- A character stands in an outline by name, as itself or by number. -/
theorem outlineEscape_cases (c : Char) :
    (∃ b, outlineEscape c = ['\\', b] ∧ b ≠ 'u' ∧ b ≠ '\n' ∧ outlineUnescape b = c) ∨
      (outlineEscape c = [c] ∧ c ≠ '\\' ∧ c ≠ '\n') ∨
      outlineEscape c = '\\' :: 'u' :: '\x7b' :: (hexDigits c.toNat ++ ['\x7d']) := by
  fun_cases outlineEscape c with
  | case1 hc => exact .inl ⟨'0', rfl, by decide, by decide, hc.symm⟩
  | case2 _ hc => exact .inl ⟨'t', rfl, by decide, by decide, hc.symm⟩
  | case3 _ _ hc => exact .inl ⟨'n', rfl, by decide, by decide, hc.symm⟩
  | case4 _ _ _ hc => exact .inl ⟨'r', rfl, by decide, by decide, hc.symm⟩
  | case5 _ _ _ _ hc => exact .inl ⟨'"', rfl, by decide, by decide, hc.symm⟩
  | case6 _ _ _ _ _ hc => exact .inl ⟨'\\', rfl, by decide, by decide, hc.symm⟩
  | case7 _ _ hlf _ _ hbackslash => exact .inr (.inl ⟨rfl, hbackslash, hlf⟩)
  | case8 => exact .inr (.inr rfl)

/-- **An escaped character is read as itself**, whatever follows. -/
theorem readOutlineChar_escape (c : Char) (rest : List Char) :
    readOutlineChar (outlineEscape c ++ rest) = some (c, rest) := by
  obtain ⟨b, hescape, hu, -, hb⟩ | ⟨hescape, hc, -⟩ | hescape := outlineEscape_cases c
  · rw [hescape]
    simp [readOutlineChar, hu, hb]
  · rw [hescape]
    simp [readOutlineChar, hc]
  · have hdigits : ∀ x ∈ hexDigits c.toNat, (x != '\x7d') = true :=
      fun x hx => bne_iff_ne.2 (ne_of_mem_hexDigits hx).1
    rw [hescape]
    simp [readOutlineChar, List.takeWhile_append_of_pos hdigits,
      List.dropWhile_append_of_pos hdigits, hexValue_hexDigits]

/-- Escaped texts are equal only if the texts are: the first escape shows the first character and
where the rest begins. -/
theorem flatMap_outlineEscape_injective {text text' : List Char}
    (h : text.flatMap outlineEscape = text'.flatMap outlineEscape) : text = text' := by
  have hread : ∀ (c : Char) (rest : List Char),
      readOutlineChar ((c :: rest).flatMap outlineEscape) =
        some (c, rest.flatMap outlineEscape) := by
    intro c rest
    rw [List.flatMap_cons, readOutlineChar_escape]
  induction text generalizing text' with
  | nil =>
    cases text' with
    | nil => rfl
    | cons c' rest' =>
      have hfirst := hread c' rest'
      rw [← h] at hfirst
      cases hfirst
  | cons c rest ih =>
    cases text' with
    | nil =>
      have hfirst := hread c rest
      rw [h] at hfirst
      cases hfirst
    | cons c' rest' =>
      have hfirst := hread c rest
      rw [h, hread, Option.some.injEq, Prod.mk.injEq] at hfirst
      rw [hfirst.1, ih hfirst.2.symm]

theorem toList_quotedText (text : String) :
    (quotedText text).toList = '"' :: (text.toList.flatMap outlineEscape ++ ['"']) := by
  simp [quotedText]

/-- **Quoted texts are equal only if the texts are.** -/
theorem quotedText_injective {text text' : String} (h : quotedText text = quotedText text') :
    text = text' := by
  have hlist := congrArg String.toList h
  rw [toList_quotedText, toList_quotedText] at hlist
  have hinside := (List.append_inj' (List.cons.inj hlist).2 rfl).1
  exact String.toList_inj.1 (flatMap_outlineEscape_injective hinside)

/-- A quoted text does not break its line. -/
theorem not_mem_quotedText (text : String) : '\n' ∉ (quotedText text).toList := by
  rw [toList_quotedText]
  intro h
  obtain ⟨c, -, hc⟩ : ∃ c ∈ text.toList, '\n' ∈ outlineEscape c := by simpa using h
  obtain ⟨b, hescape, -, hb, -⟩ | ⟨hescape, -, hlf⟩ | hescape := outlineEscape_cases c
  · rw [hescape] at hc
    simp [Ne.symm hb] at hc
  · rw [hescape] at hc
    simp [Ne.symm hlf] at hc
  · rw [hescape] at hc
    have hdigits : '\n' ∉ hexDigits c.toNat := fun hmem => (ne_of_mem_hexDigits hmem).2 rfl
    simp [hdigits] at hc

/-! ## Lines -/

/-- What a line says of its token: all but the children. -/
inductive OutlineLabel where
  | bare (text : String)
  | phrase (text : String)
  | operator (op : Operator)
  | group
  deriving DecidableEq, Repr

/-- What the line of a token says. -/
def Token.outlineLabel : Token → OutlineLabel
  | .bare text => .bare text
  | .phrase text => .phrase text
  | .operator op => .operator op
  | .group _ => .group

/-- The token that a line shows, with its children. -/
def OutlineLabel.token : OutlineLabel → Expression → Token
  | .bare text, _ => .bare text
  | .phrase text, _ => .phrase text
  | .operator op, _ => .operator op
  | .group, children => .group children

/-- The text of a label. -/
def OutlineLabel.text (label : OutlineLabel) : String :=
  (label.token []).outlineLine

theorem Token.outlineLine_eq (t : Token) : t.outlineLine = t.outlineLabel.text := by
  cases t <;> rfl

/-- A line of an outline. -/
structure OutlineRow where
  depth : Nat
  label : OutlineLabel
  deriving DecidableEq, Repr

/-- The characters of a line, without its break. -/
def OutlineRow.line (row : OutlineRow) : List Char :=
  (outlineIndent row.depth).toList ++ row.label.text.toList

theorem Operator.keyword_injective {op op' : Operator} (h : op.keyword = op'.keyword) :
    op = op' := by
  revert h
  cases op <;> cases op' <;> decide

/-- Labels are told apart by their texts. -/
theorem OutlineLabel.text_injective {label label' : OutlineLabel}
    (h : label.text.toList = label'.text.toList) : label = label' := by
  cases label with
  | bare text =>
    cases label' with
    | bare text' =>
      have hquoted : (quotedText text).toList = (quotedText text').toList := by
        simpa [OutlineLabel.text, OutlineLabel.token, Token.outlineLine] using h
      rw [quotedText_injective (String.toList_inj.1 hquoted)]
    | _ => simp [OutlineLabel.text, OutlineLabel.token, Token.outlineLine] at h
  | phrase text =>
    cases label' with
    | phrase text' =>
      have hquoted : (quotedText text).toList = (quotedText text').toList := by
        simpa [OutlineLabel.text, OutlineLabel.token, Token.outlineLine] using h
      rw [quotedText_injective (String.toList_inj.1 hquoted)]
    | _ => simp [OutlineLabel.text, OutlineLabel.token, Token.outlineLine] at h
  | operator op =>
    cases label' with
    | operator op' =>
      have hkeyword : op.keyword.toList = op'.keyword.toList := by
        simpa [OutlineLabel.text, OutlineLabel.token, Token.outlineLine] using h
      rw [Operator.keyword_injective (String.toList_inj.1 hkeyword)]
    | _ => simp [OutlineLabel.text, OutlineLabel.token, Token.outlineLine] at h
  | group =>
    cases label' with
    | group => rfl
    | _ => simp [OutlineLabel.text, OutlineLabel.token, Token.outlineLine] at h

/-- A label begins with a letter, so it is clear where the indentation ends. -/
theorem OutlineLabel.takeWhile_text (label : OutlineLabel) :
    label.text.toList.takeWhile (· == ' ') = [] := by
  cases label <;> simp [OutlineLabel.text, OutlineLabel.token, Token.outlineLine]

theorem toList_outlineIndent (depth : Nat) :
    (outlineIndent depth).toList = List.replicate (2 * depth) ' ' := by
  simp [outlineIndent]

theorem OutlineRow.takeWhile_line (row : OutlineRow) :
    row.line.takeWhile (· == ' ') = (outlineIndent row.depth).toList := by
  have hspaces : ∀ c ∈ (outlineIndent row.depth).toList, (c == ' ') = true := by
    simp [toList_outlineIndent]
  rw [OutlineRow.line, List.takeWhile_append_of_pos hspaces, OutlineLabel.takeWhile_text,
    List.append_nil]

/-- **A line gives its depth and its label away.** -/
theorem OutlineRow.line_injective : Function.Injective OutlineRow.line := by
  rintro ⟨depth, label⟩ ⟨depth', label'⟩ h
  have hindent : (outlineIndent depth).toList = (outlineIndent depth').toList := by
    rw [← OutlineRow.takeWhile_line ⟨depth, label⟩, h, OutlineRow.takeWhile_line]
  have hdepth : depth = depth' := by
    have hlength := congrArg List.length hindent
    simp only [toList_outlineIndent, List.length_replicate] at hlength
    omega
  have hlabel : label = label' := by
    rw [OutlineRow.line, OutlineRow.line, hindent] at h
    exact OutlineLabel.text_injective (List.append_cancel_left h)
  rw [hdepth, hlabel]

/-- A line does not break. -/
theorem OutlineRow.not_mem_line (row : OutlineRow) : '\n' ∉ row.line := by
  have hlabel : '\n' ∉ row.label.text.toList := by
    cases row.label with
    | bare text =>
      have hquoted := not_mem_quotedText text
      simpa [OutlineLabel.text, OutlineLabel.token, Token.outlineLine] using hquoted
    | phrase text =>
      have hquoted := not_mem_quotedText text
      simpa [OutlineLabel.text, OutlineLabel.token, Token.outlineLine] using hquoted
    | operator op => cases op <;> decide
    | group => decide
  simp [OutlineRow.line, toList_outlineIndent, hlabel]

/-! ## Rows -/

mutual

/-- The lines of a token at a depth. -/
def Token.rows (depth : Nat) : Token → List OutlineRow
  | .group children => ⟨depth, .group⟩ :: Expression.rows (depth + 1) children
  | t => [⟨depth, t.outlineLabel⟩]

/-- The lines of an expression at a depth: one for each token, in reading order. -/
def Expression.rows (depth : Nat) : Expression → List OutlineRow
  | [] => []
  | t :: ts => t.rows depth ++ Expression.rows depth ts

end

/-- A line with its break. -/
def OutlineRow.broken (row : OutlineRow) : List Char :=
  row.line ++ ['\n']

mutual

theorem Token.outlineChunks_eq (depth : Nat) (t : Token) :
    (t.outlineChunks depth).flatMap String.toList = (t.rows depth).flatMap OutlineRow.broken := by
  cases t with
  | group children =>
    have hchildren := Expression.outlineChunks_eq (depth + 1) children
    simp [Token.outlineChunks, Token.rows, hchildren, OutlineRow.broken, OutlineRow.line,
      Token.outlineLine_eq, Token.outlineLabel]
  | _ =>
    simp [Token.outlineChunks, Token.rows, OutlineRow.broken, OutlineRow.line,
      Token.outlineLine_eq]

/-- The chunks of an outline make up its lines. -/
theorem Expression.outlineChunks_eq (depth : Nat) (e : Expression) :
    (Expression.outlineChunks depth e).flatMap String.toList =
      (Expression.rows depth e).flatMap OutlineRow.broken := by
  cases e with
  | nil => rfl
  | cons t ts =>
    rw [Expression.outlineChunks, List.flatMap_append, Token.outlineChunks_eq depth t,
      Expression.outlineChunks_eq depth ts, Expression.rows, List.flatMap_append]

end

theorem Expression.toList_outline (e : Expression) :
    e.outline.toList = (Expression.rows 0 e).flatMap OutlineRow.broken := by
  rw [Expression.outline, String.toList_join, Expression.outlineChunks_eq]

/-- Broken lines are the lines with breaks between them, and nothing behind the last. -/
theorem flatMap_broken (rows : List OutlineRow) :
    rows.flatMap OutlineRow.broken =
      List.intercalate ['\n'] (rows.map OutlineRow.line ++ [[]]) := by
  induction rows with
  | nil => rfl
  | cons row rows ih =>
    obtain ⟨first, rest, hrest⟩ : ∃ first rest, rows.map OutlineRow.line ++ [[]] = first :: rest :=
      List.exists_cons_of_ne_nil (by simp)
    rw [List.flatMap_cons, ih, List.map_cons, List.cons_append, hrest, List.intercalate_cons_cons]
    rfl

/-- **The lines of an outline are the rows of the expression**: no text adds a line. -/
theorem splitOn_outline (e : Expression) :
    e.outline.toList.splitOn '\n' = (Expression.rows 0 e).map OutlineRow.line ++ [[]] := by
  rw [Expression.toList_outline, flatMap_broken, List.splitOn_intercalate]
  · intro line hline
    rcases List.mem_append.1 hline with hrow | hend
    · obtain ⟨row, -, rfl⟩ := List.mem_map.1 hrow
      exact row.not_mem_line
    · rw [List.mem_singleton.1 hend]
      exact List.not_mem_nil
  · simp

/-! ## The tree -/

/-- Puts rows together to tokens with their depths: a row takes the deeper tokens behind it as its
children. -/
def assemble : List OutlineRow → List (Nat × Token)
  | [] => []
  | row :: rows =>
    (row.depth, row.label.token (((assemble rows).takeWhile (row.depth < ·.1)).map Prod.snd)) ::
      (assemble rows).dropWhile (row.depth < ·.1)

/-- The first token stands no deeper than `depth`, if there is one. -/
def StartsAbove (depth : Nat) (tokens : List (Nat × Token)) : Prop :=
  ∀ first ∈ tokens.head?, first.1 ≤ depth

theorem StartsAbove.takeWhile_eq {depth : Nat} {tokens : List (Nat × Token)}
    (h : StartsAbove depth tokens) : tokens.takeWhile (depth < ·.1) = [] := by
  cases tokens with
  | nil => rfl
  | cons first rest =>
    have hfirst : first.1 ≤ depth := h first rfl
    exact List.takeWhile_cons_of_neg (by simpa using hfirst)

theorem StartsAbove.dropWhile_eq {depth : Nat} {tokens : List (Nat × Token)}
    (h : StartsAbove depth tokens) : tokens.dropWhile (depth < ·.1) = tokens := by
  cases tokens with
  | nil => rfl
  | cons first rest =>
    have hfirst : first.1 ≤ depth := h first rfl
    exact List.dropWhile_cons_of_neg (by simpa using hfirst)

/-- A row of a childless token. -/
theorem assemble_cons {row : OutlineRow} {rows : List OutlineRow}
    (h : StartsAbove row.depth (assemble rows)) :
    assemble (row :: rows) = (row.depth, row.label.token []) :: assemble rows := by
  rw [assemble, h.takeWhile_eq, h.dropWhile_eq]
  rfl

mutual

theorem Token.assemble_rows {depth : Nat} {rest : List OutlineRow} (t : Token)
    (h : StartsAbove depth (assemble rest)) :
    assemble (t.rows depth ++ rest) = (depth, t) :: assemble rest := by
  cases t with
  | group children =>
    have hdeeper : StartsAbove (depth + 1) (assemble rest) :=
      fun first hfirst => Nat.le_succ_of_le (h first hfirst)
    have hchildren := Expression.assemble_rows children hdeeper
    have hbelow : ∀ token ∈ children.map (Prod.mk (depth + 1)),
        decide (depth < token.1) = true := by
      simp
    rw [Token.rows, List.cons_append, assemble, hchildren, List.takeWhile_append_of_pos hbelow,
      List.dropWhile_append_of_pos hbelow, h.takeWhile_eq, h.dropWhile_eq, List.append_nil]
    simp [OutlineLabel.token, Function.comp_def]
  | _ => exact assemble_cons h

/-- **The tree from its rows**, whatever rows follow that are no deeper. -/
theorem Expression.assemble_rows {depth : Nat} {rest : List OutlineRow} (e : Expression)
    (h : StartsAbove depth (assemble rest)) :
    assemble (Expression.rows depth e ++ rest) = e.map (Prod.mk depth) ++ assemble rest := by
  cases e with
  | nil => rfl
  | cons t ts =>
    have hts := Expression.assemble_rows ts h
    have hbehind : StartsAbove depth (assemble (Expression.rows depth ts ++ rest)) := by
      rw [hts]
      cases ts with
      | nil => exact h
      | cons u us =>
        intro first hfirst
        obtain rfl : (depth, u) = first := Option.some.inj hfirst
        exact Nat.le_refl depth
    rw [Expression.rows, List.append_assoc, Token.assemble_rows t hbehind, hts]
    rfl

end

/-- Expressions with the same rows are equal. -/
theorem Expression.rows_injective {e e' : Expression}
    (h : Expression.rows 0 e = Expression.rows 0 e') : e = e' := by
  have htree : ∀ e : Expression, (assemble (Expression.rows 0 e)).map Prod.snd = e := by
    intro e
    have hnothing : StartsAbove 0 (assemble []) := nofun
    have hrows := Expression.assemble_rows e hnothing
    rw [List.append_nil] at hrows
    rw [hrows]
    simp [assemble, Function.comp_def]
  rw [← htree e, h, htree e']

/-- **The outline determines the expression**, whatever its texts hold and however its groups nest:
equal outlines show equal expressions.  Each token has exactly one line, in reading order; and a
line is that of one depth and one label only, so no text passes for another line, another kind or
another indentation. -/
theorem outline_eq_iff (e e' : Expression) :
    (e.outline = e'.outline ↔ e = e') ∧
      e.outline.toList.splitOn '\n' = (Expression.rows 0 e).map OutlineRow.line ++ [[]] ∧
      Function.Injective OutlineRow.line := by
  refine ⟨⟨fun h => ?_, fun h => by rw [h]⟩, splitOn_outline e, OutlineRow.line_injective⟩
  have hlines := congrArg (fun text => text.toList.splitOn '\n') h
  simp only [splitOn_outline, List.append_cancel_right_eq] at hlines
  exact Expression.rows_injective (List.map_injective_iff.2 OutlineRow.line_injective hlines)

/-- A text with a line break in it stays on its line. -/
example : Expression.outline [.bare "a\"\ngroup", .group []] =
    "value \"a\\\"\\ngroup\"\ngroup\n" := by
  decide +kernel

end BooleanSearch
