import BooleanSearch.Json.Reader

/-!
# Reading compact JSON

What the two machines of the reader do to compact text: strings, arrays, and objects of a type and a
value.  Each statement is about a text in front of any other, and about any containers that are open
around it.

* `LexesTo` — a text between lexemes gives the lexemes, whatever follows; joining keeps it;
* `lexesTo_jsonString` — an escaped text in quotes is one string, and it holds the text;
* `Builds` — lexemes make a JSON value wherever one may stand;
* `ReadsAsJson`, `ReadsAsRest` — both for a text: a value, and the end of an array with its bracket;
* `ReadsAsJson.parse?_eq` — a text that reads as a value is parsed to it.
-/

namespace BooleanSearch

/-! ## Characters of a string -/

/-- A character is no half of a surrogate pair. -/
theorem not_isSurrogate (c : Char) :
    isHighSurrogate c.toNat = false ∧ isLowSurrogate c.toNat = false := by
  have hvalid : c.toNat < 0xD800 ∨ (0xDFFF < c.toNat ∧ c.toNat < 0x110000) := c.valid
  simp only [isHighSurrogate, isLowSurrogate, Bool.and_eq_false_iff, decide_eq_false_iff_not]
  omega

/-- Code points are read as the characters they belong to. -/
theorem charsOfUnits_map_toNat (text : List Char) :
    charsOfUnits (text.map Char.toNat) = some text := by
  induction text with
  | nil => rfl
  | cons c text ih =>
    obtain ⟨hhigh, hlow⟩ := not_isSurrogate c
    cases text with
    | nil => simp [charsOfUnits, hhigh, hlow]
    | cons d text =>
      rw [List.map_cons] at ih
      simp [charsOfUnits, hhigh, hlow, ih]

/-- A character is written as a backslash and a letter, as an escape of four digits, or as
itself. -/
theorem jsonEscape_cases (c : Char) :
    (∃ b, jsonEscape c = ['\\', b] ∧ b ≠ 'u' ∧ escapedUnit? b = some c.toNat) ∨
      (∃ x y m n, jsonEscape c = ['\\', 'u', '0', '0', x, y] ∧ hexDigit? x = some m ∧
        hexDigit? y = some n ∧ 16 * m + n = c.toNat) ∨
      (jsonEscape c = [c] ∧ c ≠ '"' ∧ c ≠ '\\' ∧ ¬c.toNat < 0x20) := by
  have hlow : ∀ n < 16, hexDigits n = [Nat.digitChar n] ∧
      hexDigit? (Nat.digitChar n) = some n := by decide
  have hhigh : ∀ n < 32, 16 ≤ n → hexDigits n = ['1', Nat.digitChar (n - 16)] := by decide
  fun_cases jsonEscape c with
  | case1 hc => exact .inl ⟨'"', rfl, by decide, by rw [hc]; rfl⟩
  | case2 _ hc => exact .inl ⟨'\\', rfl, by decide, by rw [hc]; rfl⟩
  | case3 _ _ hc => exact .inl ⟨'b', rfl, by decide, by rw [hc]; rfl⟩
  | case4 _ _ _ hc => exact .inl ⟨'f', rfl, by decide, by rw [hc]; rfl⟩
  | case5 _ _ _ _ hc => exact .inl ⟨'n', rfl, by decide, by rw [hc]; rfl⟩
  | case6 _ _ _ _ _ hc => exact .inl ⟨'r', rfl, by decide, by rw [hc]; rfl⟩
  | case7 _ _ _ _ _ _ hc => exact .inl ⟨'t', rfl, by decide, by rw [hc]; rfl⟩
  | case8 _ _ _ _ _ _ _ hshort =>
    obtain ⟨hdigits, hvalue⟩ := hlow c.toNat hshort
    exact .inr (.inl ⟨'0', _, 0, c.toNat, by rw [hdigits]; rfl, rfl, hvalue, by omega⟩)
  | case9 _ _ _ _ _ _ _ hlong hcontrol =>
    have hdigits := hhigh c.toNat hcontrol (by omega)
    obtain ⟨-, hvalue⟩ := hlow (c.toNat - 16) (by omega)
    exact .inr (.inl ⟨'1', _, 1, c.toNat - 16, by rw [hdigits]; rfl, rfl, hvalue, by omega⟩)
  | case10 hquote hbackslash _ _ _ _ _ _ hcontrol =>
    exact .inr (.inr ⟨rfl, hquote, hbackslash, hcontrol⟩)

/-! ## From characters to lexemes -/

/-- Between lexemes, the text gives the lexemes and leaves the machine between lexemes, whatever
follows. -/
def LexesTo (text : List Char) (ls : List Lexeme) : Prop :=
  ∀ done rest, Lexing.run .between done (text ++ rest) =
    Lexing.run .between (ls.reverse ++ done) rest

theorem LexesTo.append {text text' : List Char} {ls ls' : List Lexeme} (h : LexesTo text ls)
    (h' : LexesTo text' ls') : LexesTo (text ++ text') (ls ++ ls') := by
  intro done rest
  rw [List.append_assoc, h, h', List.reverse_append, List.append_assoc]

/-- A punctuation mark is a lexeme. -/
theorem LexesTo.mark {c : Char} (h : Lexing.start c = some (.between, [.mark c])) :
    LexesTo [c] [.mark c] := by
  intro done rest
  rw [List.singleton_append, Lexing.run, Lexing.step, h]

/-- Inside a string, an escaped character is read as its code point. -/
theorem run_jsonEscape (c : Char) (units : List Nat) (done : List Lexeme) (rest : List Char) :
    Lexing.run (.inString units) done (jsonEscape c ++ rest) =
      Lexing.run (.inString (c.toNat :: units)) done rest := by
  obtain ⟨b, hescape, hb, hunit⟩ | ⟨x, y, m, n, hescape, hx, hy, hvalue⟩ |
    ⟨hescape, hquote, hbackslash, hcontrol⟩ := jsonEscape_cases c
  · rw [hescape]
    simp [Lexing.run, Lexing.step, hb, hunit]
  · have hzero : hexDigit? '0' = some 0 := by decide
    rw [hescape]
    simp [Lexing.run, Lexing.step, hzero, hx, hy, hvalue]
  · rw [hescape]
    simp [Lexing.run, Lexing.step, hquote, hbackslash, hcontrol]

/-- Escaped text is read as its code points, latest first. -/
theorem run_flatMap_jsonEscape (text : List Char) (units : List Nat) (done : List Lexeme)
    (rest : List Char) :
    Lexing.run (.inString units) done (text.flatMap jsonEscape ++ rest) =
      Lexing.run (.inString ((text.map Char.toNat).reverse ++ units)) done rest := by
  induction text generalizing units with
  | nil => rfl
  | cons c text ih =>
    rw [List.flatMap_cons, List.append_assoc, run_jsonEscape, ih]
    simp

/-- **A text in quotes is one string**, and it holds the text. -/
theorem lexesTo_jsonString (text : String) :
    LexesTo (jsonString text).toList [.scalar (.string (some text))] := by
  intro done rest
  have hopen : ∀ tail, Lexing.run .between done ('"' :: tail) =
      Lexing.run (.inString []) done tail := fun _ => rfl
  have htext : textOfUnits (text.toList.map Char.toNat) = some text := by
    rw [textOfUnits, charsOfUnits_map_toNat, Option.map_some, String.ofList_toList]
  rw [jsonString, String.toList_ofList, List.cons_append, List.cons_append, hopen,
    List.append_assoc, run_flatMap_jsonEscape]
  simp [Lexing.run, Lexing.step, htext]

/-! ## From lexemes to values -/

/-- The state behind lexemes. -/
def Json.Partial.run (state : Json.Partial) (ls : List Lexeme) : Option Json.Partial :=
  ls.foldlM Json.Partial.step state

theorem Json.Partial.run_cons {state next : Json.Partial} {l : Lexeme}
    (h : state.step l = some next) (ls : List Lexeme) : state.run (l :: ls) = next.run ls := by
  rw [Json.Partial.run, List.foldlM_cons, h]
  rfl

/-- Wherever a value may stand, the lexemes make this one, also as the first item of an array. -/
structure Builds (ls : List Lexeme) (json : Json) : Prop where
  value : ∀ stack rest, (Json.Partial.value stack).run (ls ++ rest) =
    (Json.Partial.after json stack).run rest
  first : ∀ stack rest, (Json.Partial.opened stack).run (ls ++ rest) =
    (Json.Partial.after json (.array [] :: stack)).run rest

/-- A text that is read as a JSON value wherever one may stand. -/
def ReadsAsJson (text : List Char) (json : Json) : Prop :=
  ∃ ls, LexesTo text ls ∧ Builds ls json

/-- A text that is read behind an item of an array as further items and the end of the array. -/
def ReadsAsRest (text : List Char) (items : List Json) : Prop :=
  ∃ ls, LexesTo text ls ∧ ∀ item before stack rest,
    (Json.Partial.after item (.array before :: stack)).run (ls ++ rest) =
      (Json.Partial.after (.array (before.reverse ++ item :: items)) stack).run rest

theorem readsAsJson_jsonString (text : String) :
    ReadsAsJson (jsonString text).toList (.string (some text)) :=
  ⟨_, lexesTo_jsonString text, fun _ _ => rfl, fun _ _ => rfl⟩

/-- The bracket ends an array. -/
theorem ReadsAsRest.nil : ReadsAsRest [']'] [] := by
  refine ⟨_, LexesTo.mark rfl, fun item before stack rest => ?_⟩
  rw [List.singleton_append, Json.Partial.run_cons rfl]
  simp

/-- A comma and a value are a further item. -/
theorem ReadsAsRest.cons {text rest : List Char} {json : Json} {items : List Json}
    (h : ReadsAsJson text json) (hrest : ReadsAsRest rest items) :
    ReadsAsRest (',' :: (text ++ rest)) (json :: items) := by
  obtain ⟨ls, hlex, hbuild⟩ := h
  obtain ⟨ls', hlex', hrun⟩ := hrest
  have hcomma : LexesTo [','] [.mark ','] := LexesTo.mark rfl
  refine ⟨_, hcomma.append (hlex.append hlex'), fun item before stack tail => ?_⟩
  have hstep : (Json.Partial.after item (.array before :: stack)).step (.mark ',') =
      some (.value (.array (item :: before) :: stack)) := rfl
  rw [List.append_assoc, List.singleton_append, Json.Partial.run_cons hstep, List.append_assoc,
    hbuild.value, hrun]
  simp

/-- An empty array. -/
theorem ReadsAsJson.array_nil : ReadsAsJson ['[', ']'] (.array []) :=
  ⟨_, (LexesTo.mark (c := '[') rfl).append (LexesTo.mark (c := ']') rfl),
    fun _ _ => rfl, fun _ _ => rfl⟩

/-- An array with a first item. -/
theorem ReadsAsJson.array_cons {text rest : List Char} {json : Json} {items : List Json}
    (h : ReadsAsJson text json) (hrest : ReadsAsRest rest items) :
    ReadsAsJson ('[' :: (text ++ rest)) (.array (json :: items)) := by
  obtain ⟨ls, hlex, hbuild⟩ := h
  obtain ⟨ls', hlex', hrun⟩ := hrest
  have hopen : LexesTo ['['] [.mark '['] := LexesTo.mark rfl
  have hopened : ∀ stack tail, (Json.Partial.opened stack).run (ls ++ ls' ++ tail) =
      (Json.Partial.after (.array (json :: items)) stack).run tail := by
    intro stack tail
    rw [List.append_assoc, hbuild.first, hrun]
    rfl
  refine ⟨_, hopen.append (hlex.append hlex'), ?_, ?_⟩
  · intro stack tail
    exact hopened stack tail
  · intro stack tail
    exact hopened (.array [] :: stack) tail

/-- An object of a type and a value. -/
def Json.tagged (name : String) (value : Json) : Json :=
  .object [(some "type", .string (some name)), (some "value", value)]

/-- The compact text in front of the value. -/
def tagText (name : String) : String :=
  "\x7b\"type\":" ++ jsonString name ++ ",\"value\":"

/-- **An object of a type and a value** is read member by member. -/
theorem ReadsAsJson.tagged (name : String) {text : List Char} {json : Json}
    (h : ReadsAsJson text json) :
    ReadsAsJson ((tagText name).toList ++ text ++ ['\x7d']) (Json.tagged name json) := by
  obtain ⟨ls, hlex, hbuild⟩ := h
  have htype : LexesTo "\x7b\"type\":".toList
      [.mark '\x7b', .scalar (.string (some "type")), .mark ':'] := fun _ _ => rfl
  have hvalue : LexesTo ",\"value\":".toList
      [.mark ',', .scalar (.string (some "value")), .mark ':'] := fun _ _ => rfl
  have hclose : LexesTo ['\x7d'] [.mark '\x7d'] := LexesTo.mark rfl
  -- Behind the opening brace it no longer matters where the object stands.
  have hmembers : ∀ stack tail, (Json.Partial.name true [] stack).run
      ([.scalar (.string (some "type")), .mark ':', .scalar (.string (some name)), .mark ',',
        .scalar (.string (some "value")), .mark ':'] ++ (ls ++ ([.mark '\x7d'] ++ tail))) =
      (Json.Partial.after (Json.tagged name json) stack).run tail := by
    intro stack tail
    show (Json.Partial.value (.object [(some "type", .string (some name))] (some "value") ::
      stack)).run (ls ++ ([.mark '\x7d'] ++ tail)) = _
    rw [hbuild.value]
    rfl
  rw [tagText, String.toList_append, String.toList_append]
  refine ⟨_, (((htype.append (lexesTo_jsonString name)).append hvalue).append hlex).append hclose,
    ?_, ?_⟩
  · intro stack tail
    simp only [List.append_assoc]
    exact hmembers stack tail
  · intro stack tail
    simp only [List.append_assoc]
    exact hmembers (.array [] :: stack) tail

/-- **A text that reads as a value is parsed to it.** -/
theorem ReadsAsJson.parse?_eq {text : String} {json : Json} (h : ReadsAsJson text.toList json) :
    Json.parse? text = some json := by
  obtain ⟨ls, hlex, hbuild⟩ := h
  have hlexemes : lexemes? text = some ls := by
    have hrun := hlex [] []
    rw [List.append_nil, List.append_nil] at hrun
    rw [lexemes?, hrun]
    simp [Lexing.run, Lexing.finish]
  have hvalue : ls.foldlM Json.Partial.step (.value []) = some (.after json []) := by
    have hrun := hbuild.value [] []
    rw [List.append_nil] at hrun
    exact hrun
  rw [Json.parse?, hlexemes]
  simp [hvalue]

end BooleanSearch
