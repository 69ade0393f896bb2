import Mathlib.Tactic.SplitIfs
import BooleanSearch.Settings

/-!
# Reading string literals

The reader's side of a dialect: how a data store finds the end of a literal and what the literal
stands for.  The rules are stated on their own and do not mention how text is quoted.

* `Dialect.pair` — two characters that stand for one: in standard SQL two quotes for a quote, in
  MySQL a backslash and any character;
* `Dialect.readLiteral` — reads a literal behind its opening quote up to a quote that is no part
  of a pair;
* `Dialect.readLiteral_escaped` — escaped text is read up to the closing quote, and as the text
  that was escaped, as long as no other quote follows.
-/

namespace BooleanSearch

/-! ## The rules -/

/-- The character that a backslash and `c` stand for. -/
def mysqlUnescape (c : Char) : Char :=
  if c = '0' then '\x00'
  else if c = 'n' then '\n'
  else if c = 'r' then '\r'
  else if c = 'Z' then '\x1a'
  else c

/-- The character that two neighbours inside a literal stand for, if they belong together. -/
def Dialect.pair : Dialect → Char → Char → Option Char
  | .ansi, c, d => if c = '\'' ∧ d = '\'' then some '\'' else none
  | .mysql, c, d => if c = '\\' then some (mysqlUnescape d) else none

/-- A character in front of what a literal stands for. -/
def consLiteral (c : Char) (read : List Char × List Char) : List Char × List Char :=
  (c :: read.1, read.2)

/-- Reads a literal behind its opening quote: the text that it stands for and what follows its
closing quote, or nothing if it is not closed. -/
def Dialect.readLiteral (dialect : Dialect) : List Char → Option (List Char × List Char)
  | [] => none
  | [c] => if c = '\'' then some ([], []) else none
  | c :: d :: rest =>
    match dialect.pair c d with
    | some x => (dialect.readLiteral rest).map (consLiteral x)
    | none =>
      if c = '\'' then some ([], d :: rest)
      else (dialect.readLiteral (d :: rest)).map (consLiteral c)

/-- Reading a literal uses up at least its closing quote. -/
theorem Dialect.readLiteral_length {dialect : Dialect} {text : List Char}
    {read : List Char × List Char} (h : dialect.readLiteral text = some read) :
    read.2.length < text.length := by
  fun_induction Dialect.readLiteral dialect text generalizing read with
  | case1 => cases h
  | case2 =>
    obtain rfl := Option.some.inj h
    exact Nat.zero_lt_one
  | case3 => cases h
  | case4 c d rest x hpair ih =>
    obtain ⟨inner, hinner, rfl⟩ := Option.map_eq_some_iff.1 h
    have hlt := ih hinner
    simp only [consLiteral, List.length_cons]
    omega
  | case5 =>
    obtain rfl := Option.some.inj h
    exact Nat.lt_succ_self _
  | case6 c d rest hpair hc ih =>
    obtain ⟨inner, hinner, rfl⟩ := Option.map_eq_some_iff.1 h
    have hlt := ih hinner
    simp only [consLiteral, List.length_cons] at hlt ⊢
    omega

/-! ## Steps of the reader -/

theorem Dialect.readLiteral_pair {dialect : Dialect} {c d x : Char}
    (h : dialect.pair c d = some x) (rest : List Char) :
    dialect.readLiteral (c :: d :: rest) = (dialect.readLiteral rest).map (consLiteral x) := by
  rw [Dialect.readLiteral, h]

/-- A character that is no quote and opens no pair stands for itself. -/
theorem Dialect.readLiteral_cons {dialect : Dialect} {c : Char} (hc : c ≠ '\'')
    (hpair : ∀ d, dialect.pair c d = none) (rest : List Char) :
    dialect.readLiteral (c :: rest) = (dialect.readLiteral rest).map (consLiteral c) := by
  cases rest with
  | nil => exact if_neg hc
  | cons d rest =>
    rw [Dialect.readLiteral, hpair d]
    exact if_neg hc

/-- A quote that no other quote follows closes the literal. -/
theorem Dialect.readLiteral_quote (dialect : Dialect) {rest : List Char}
    (h : rest.head? ≠ some '\'') : dialect.readLiteral ('\'' :: rest) = some ([], rest) := by
  cases rest with
  | nil => rfl
  | cons d rest =>
    have hpair : dialect.pair '\'' d = none := by
      cases dialect with
      | ansi =>
        refine if_neg fun hd => h ?_
        rw [hd.2]
        rfl
      | mysql => rfl
    rw [Dialect.readLiteral, hpair]
    rfl

/-! ## Reading escaped text -/

/-- How a dialect writes one character inside a literal. -/
def Dialect.escape : Dialect → Char → List Char
  | .ansi => ansiEscape
  | .mysql => mysqlEscape

/-- MySQL writes seven characters with a backslash, quote and backslash among them. -/
theorem mysqlEscape_cases (c : Char) :
    (∃ b, mysqlEscape c = ['\\', b] ∧ mysqlUnescape b = c) ∨
      (mysqlEscape c = [c] ∧ c ≠ '\'' ∧ c ≠ '\\') := by
  unfold mysqlEscape
  split_ifs with hnul hlf hcr hbackslash hquote hdouble hsub
  · exact .inl ⟨'0', rfl, hnul.symm⟩
  · exact .inl ⟨'n', rfl, hlf.symm⟩
  · exact .inl ⟨'r', rfl, hcr.symm⟩
  · exact .inl ⟨'\\', rfl, hbackslash.symm⟩
  · exact .inl ⟨'\'', rfl, hquote.symm⟩
  · exact .inl ⟨'"', rfl, hdouble.symm⟩
  · exact .inl ⟨'Z', rfl, hsub.symm⟩
  · exact .inr ⟨rfl, hquote, hbackslash⟩

/-- A character is written as a pair that stands for it, or as itself if it is read as such. -/
theorem Dialect.escape_cases (dialect : Dialect) (c : Char) :
    (∃ a b, dialect.escape c = [a, b] ∧ dialect.pair a b = some c) ∨
      (dialect.escape c = [c] ∧ c ≠ '\'' ∧ ∀ d, dialect.pair c d = none) := by
  cases dialect with
  | ansi =>
    by_cases hc : c = '\''
    · subst hc
      exact .inl ⟨'\'', '\'', rfl, rfl⟩
    · exact .inr ⟨if_neg hc, hc, fun d => if_neg fun h => hc h.1⟩
  | mysql =>
    obtain ⟨b, hescape, hb⟩ | ⟨hescape, hquote, hbackslash⟩ := mysqlEscape_cases c
    · exact .inl ⟨'\\', b, hescape, congrArg some hb⟩
    · exact .inr ⟨hescape, hquote, fun d => if_neg hbackslash⟩

/-- An escaped character is read as itself. -/
theorem Dialect.readLiteral_escape (dialect : Dialect) (c : Char) (rest : List Char) :
    dialect.readLiteral (dialect.escape c ++ rest) =
      (dialect.readLiteral rest).map (consLiteral c) := by
  obtain ⟨a, b, hescape, hpair⟩ | ⟨hescape, hc, hpair⟩ := dialect.escape_cases c
  · rw [hescape, List.cons_append, List.singleton_append, Dialect.readLiteral_pair hpair]
  · rw [hescape, List.singleton_append, Dialect.readLiteral_cons hc hpair]

/-- **Escaped text is read as itself**, up to the quote that closes it. -/
theorem Dialect.readLiteral_escaped (dialect : Dialect) {rest : List Char}
    (hrest : rest.head? ≠ some '\'') (text : List Char) :
    dialect.readLiteral (text.flatMap dialect.escape ++ '\'' :: rest) = some (text, rest) := by
  induction text with
  | nil => exact dialect.readLiteral_quote hrest
  | cons c text ih =>
    rw [List.flatMap_cons, List.append_assoc, Dialect.readLiteral_escape, ih]
    rfl

/-- What a dialect's quoter accepts, it writes escaped between two quotes. -/
theorem Dialect.quote_eq_ok {dialect : Dialect} {literal quoted : String}
    (h : dialect.quoter.quote literal = .ok quoted) :
    quoted.toList = '\'' :: (literal.toList.flatMap dialect.escape ++ ['\'']) := by
  have henclose : quoted = enclose '\'' (literal.toList.flatMap dialect.escape) := by
    cases dialect with
    | ansi =>
      simp only [Dialect.quoter, Quoter.ansi] at h
      split at h
      · cases h
      · exact (Except.ok.inj h).symm
    | mysql => exact (Except.ok.inj h).symm
  rw [henclose, enclose, String.toList_ofList, List.cons_append]

end BooleanSearch
