import BooleanSearch.Fragment.Compose
import BooleanSearch.Proofs.Trimming
import BooleanSearch.Settings

/-!
# Settings in layers

A setting comes from a flag, else from a variable, else from a default.  Which variables are
accepted is stated without the functions that read them: a name in any case, and a number as its
digits behind zeros and a sign, with white space around.

* `natOfDigits_eq_iff` — digits of a value are zeros and the digits of that number;
* `IsNumeral`, `parseUnsigned?_eq_some_iff` — what is read as a number, of any length;
* `Spells`, `parseDepth_eq_ok_iff` — the same with white space around it;
* `LowerCasing`, `LowerCasing.eq_iff` — the names of levels and dialects are ASCII letters without
  a `k`, so any lower case of the letters outside ASCII finds the same names;
* `Layered`, `Settings.load_eq_ok_iff` — a setting and the layer that it comes from;
* `load_layers` — when settings are accepted, and what they are.
-/

namespace BooleanSearch

/-! ## Numerals -/

theorem natOfDigits_concat (digits : List Char) (c : Char) :
    natOfDigits (digits ++ [c]) = 10 * natOfDigits digits + (c.toNat - '0'.toNat) := by
  simp [natOfDigits]

/-- A digit is the digit of its value, which is below ten. -/
theorem toDigits_of_isDigit {c : Char} (h : c.isDigit = true) :
    c.toNat - '0'.toNat < 10 ∧ Nat.toDigits 10 (c.toNat - '0'.toNat) = [c] := by
  have hrange : 48 ≤ c.toNat ∧ c.toNat ≤ 57 := Char.isDigit_iff_toNat.1 h
  have hlt : c.toNat - '0'.toNat < 10 := by
    show c.toNat - 48 < 10
    omega
  refine ⟨hlt, ?_⟩
  rw [Nat.toDigits_of_lt_base hlt]
  congr 1
  apply Char.toNat_inj.1
  rw [Nat.toNat_digitChar_of_lt_ten hlt]
  show 48 + (c.toNat - 48) = c.toNat
  omega

theorem natOfDigits_zeros_append (zeros : Nat) (digits : List Char) :
    natOfDigits (List.replicate zeros '0' ++ digits) = natOfDigits digits := by
  induction zeros with
  | zero => rfl
  | succ zeros ih => exact ih

/-- **Digits are zeros in front of the digits of their value.** -/
theorem exists_zeros_append {digits : List Char} (hne : digits ≠ [])
    (hdigits : ∀ c ∈ digits, c.isDigit = true) :
    ∃ zeros, digits = List.replicate zeros '0' ++ Nat.toDigits 10 (natOfDigits digits) := by
  induction digits using List.reverseRecOn with
  | nil => exact absurd rfl hne
  | append_singleton digits c ih =>
    obtain ⟨hlt, hc⟩ := toDigits_of_isDigit (hdigits c (by simp))
    have hfront : ∀ d ∈ digits, d.isDigit = true := fun d hd => hdigits d (by simp [hd])
    rw [natOfDigits_concat]
    by_cases hnil : digits = []
    · subst hnil
      exact ⟨0, by rw [show natOfDigits [] = 0 from rfl, Nat.mul_zero, Nat.zero_add, hc]; rfl⟩
    · obtain ⟨zeros, hzeros⟩ := ih hnil hfront
      generalize natOfDigits digits = n at hzeros ⊢
      rcases Nat.eq_zero_or_pos n with rfl | hpos
      · -- so far there were only zeros, and the next digit stands alone
        refine ⟨zeros + 1, ?_⟩
        rw [Nat.mul_zero, Nat.zero_add, hc, List.replicate_succ', hzeros]
        rfl
      · refine ⟨zeros, ?_⟩
        rw [← Nat.toDigits_append_toDigits (by decide) hpos hlt, hc, ← List.append_assoc, ← hzeros]

/-- A run of digits has a value exactly if it is zeros in front of the digits of that number. -/
theorem natOfDigits_eq_iff {digits : List Char} {n : Nat} :
    (digits ≠ [] ∧ (∀ c ∈ digits, c.isDigit = true) ∧ natOfDigits digits = n) ↔
      ∃ zeros, digits = List.replicate zeros '0' ++ Nat.toDigits 10 n := by
  constructor
  · rintro ⟨hne, hdigits, rfl⟩
    exact exists_zeros_append hne hdigits
  · rintro ⟨zeros, rfl⟩
    refine ⟨?_, fun c hc => ?_, ?_⟩
    · exact fun hnil => Nat.toDigits_ne_nil (List.append_eq_nil_iff.1 hnil).2
    · rcases List.mem_append.1 hc with hzero | hdigit
      · rw [List.eq_of_mem_replicate hzero]
        rfl
      · exact Nat.isDigit_of_mem_toDigits (by decide) (by decide) hdigit
    · rw [natOfDigits_zeros_append]
      exact Nat.ofDigitChars_toDigits (by decide) (by decide)

/-- Text without the plus sign in front of it. -/
def withoutPlus : List Char → List Char
  | '+' :: rest => rest
  | text => text

/-- What is read as a number is a run of digits of that value, one plus sign aside. -/
theorem parseUnsigned?_eq_some {text : List Char} {n : Nat} :
    parseUnsigned? text = some n ↔ n < Nat.pow 2 64 ∧ withoutPlus text ≠ [] ∧
      (∀ c ∈ withoutPlus text, c.isDigit = true) ∧ natOfDigits (withoutPlus text) = n := by
  show (if (withoutPlus text).isEmpty || !(withoutPlus text).all Char.isDigit then none
    else if natOfDigits (withoutPlus text) < Nat.pow 2 64 then some (natOfDigits (withoutPlus text))
      else none) = some n ↔ _
  generalize withoutPlus text = digits
  by_cases hdigits : digits ≠ [] ∧ ∀ c ∈ digits, c.isDigit = true
  · have hread : (digits.isEmpty || !digits.all Char.isDigit) = false := by simpa using hdigits
    rw [hread, if_neg Bool.false_ne_true, Option.ite_none_right_eq_some, Option.some.injEq]
    constructor
    · rintro ⟨hlt, rfl⟩
      exact ⟨hlt, hdigits.1, hdigits.2, rfl⟩
    · rintro ⟨hlt, -, -, rfl⟩
      exact ⟨hlt, rfl⟩
  · have hread : (digits.isEmpty || !digits.all Char.isDigit) = true := by
      by_contra hfalse
      exact hdigits (by simpa using hfalse)
    rw [hread, if_pos rfl]
    exact ⟨nofun, fun h => absurd ⟨h.2.1, h.2.2.1⟩ hdigits⟩

/-- A number as it may be written: a plus sign or none, any number of zeros, and its digits. -/
def IsNumeral (n : Nat) (text : List Char) : Prop :=
  ∃ sign zeros, (sign = [] ∨ sign = ['+']) ∧
    text = sign ++ (List.replicate zeros '0' ++ Nat.toDigits 10 n)

/-- Behind one plus sign or none, a numeral is zeros and digits. -/
theorem isNumeral_iff {n : Nat} {text : List Char} :
    IsNumeral n text ↔
      ∃ zeros, withoutPlus text = List.replicate zeros '0' ++ Nat.toDigits 10 n := by
  constructor
  · rintro ⟨sign, zeros, hsign, rfl⟩
    refine ⟨zeros, ?_⟩
    rcases hsign with rfl | rfl
    · -- the digits themselves begin with no plus sign
      obtain ⟨-, hdigits, -⟩ := natOfDigits_eq_iff.2 ⟨zeros, rfl⟩
      rw [List.nil_append]
      unfold withoutPlus
      split
      · rename_i heq
        rw [heq] at hdigits
        cases hdigits '+' List.mem_cons_self
      · rfl
    · rfl
  · rintro ⟨zeros, hzeros⟩
    unfold withoutPlus at hzeros
    split at hzeros
    · exact ⟨['+'], zeros, .inr rfl, congrArg ('+' :: ·) hzeros⟩
    · exact ⟨[], zeros, .inl rfl, hzeros⟩

/-- **What is read as a number of 64 bits** is a numeral of it, however long. -/
theorem parseUnsigned?_eq_some_iff {text : List Char} {n : Nat} :
    parseUnsigned? text = some n ↔ n < Nat.pow 2 64 ∧ IsNumeral n text := by
  rw [parseUnsigned?_eq_some, natOfDigits_eq_iff, isNumeral_iff]

/-! ## White space around a number -/

/-- There is no white space in a numeral. -/
theorem IsNumeral.not_isWhiteSpace {n : Nat} {numeral : List Char} (h : IsNumeral n numeral) :
    ∀ c ∈ numeral, isWhiteSpace c = false := by
  obtain ⟨sign, zeros, hsign, rfl⟩ := h
  obtain ⟨-, hdigits, -⟩ := natOfDigits_eq_iff.2 ⟨zeros, rfl⟩
  intro c hc
  rcases List.mem_append.1 hc with hplus | hdigit
  · rcases hsign with rfl | rfl
    · cases hplus
    · rw [List.mem_singleton.1 hplus]
      rfl
  · have hrange : 48 ≤ c.toNat ∧ c.toNat ≤ 57 := Char.isDigit_iff_toNat.1 (hdigits c hdigit)
    simp only [isWhiteSpace, Bool.or_eq_false_iff, Bool.and_eq_false_iff, decide_eq_false_iff_not,
      beq_eq_false_iff_ne]
    omega

/-- A text spells a number if it is a numeral with white space around it. -/
def Spells (text : String) (n : Nat) : Prop :=
  ∃ lead numeral trail, IsNumeral n numeral ∧ (∀ c ∈ lead, isWhiteSpace c = true) ∧
    (∀ c ∈ trail, isWhiteSpace c = true) ∧ text.toList = lead ++ numeral ++ trail

/-- A text spells a depth limit if that is one the reader uses as it is. -/
def SpellsDepth (text : String) (n : Nat) : Prop :=
  n ≤ 256 ∧ Spells text n

/-- Text spells a number exactly if it is a numeral once it is trimmed. -/
theorem isNumeral_trimBy_iff {text : String} {n : Nat} :
    IsNumeral n (trimBy isWhiteSpace text.toList) ↔ Spells text n := by
  constructor
  · intro h
    obtain ⟨lead, trail, hlead, htrail, heq⟩ := exists_trimBy_eq isWhiteSpace text.toList
    exact ⟨lead, _, trail, h, List.all_eq_true.1 hlead, List.all_eq_true.1 htrail, heq⟩
  · rintro ⟨lead, numeral, trail, h, hlead, htrail, heq⟩
    rw [heq, List.append_assoc, trimBy_lead (List.all_eq_true.2 hlead),
      trimBy_trail (List.all_eq_true.2 htrail), trimBy_of_forall h.not_isWhiteSpace]
    exact h

/-- **A depth limit is read** from a text that spells a number of 64 bits, and from no other. -/
theorem parseDepth_eq_ok_iff {text : String} {n : Nat} :
    parseDepth text = .ok n ↔ n < Nat.pow 2 64 ∧ Spells text n := by
  rw [← isNumeral_trimBy_iff, ← parseUnsigned?_eq_some_iff, parseDepth]
  split
  · rename_i hread
    rw [hread, Except.ok.injEq, Option.some.injEq]
  · rename_i hread
    rw [hread]
    exact ⟨nofun, nofun⟩

/-! ## Names in any case -/

/-- The names of a level, in lower case. -/
def LogLevel.names : LogLevel → List String
  | .warn => ["warn", "warning"]
  | level => [level.name]

/-- What is known of the lower case of a text: ASCII letters become small, and where there is a
character outside ASCII, there is one in the lower case too, or the `k` that the Kelvin sign
becomes. -/
structure LowerCasing (lower : String → String) : Prop where
  ascii : ∀ text : String, (∀ c ∈ text.toList, c.toNat < 128) → lower text = lowerCase text
  beyond : ∀ text : String, ∀ c ∈ text.toList, 128 ≤ c.toNat →
    ∃ d ∈ (lower text).toList, d = 'k' ∨ 128 ≤ d.toNat

/-- To change ASCII letters only is one way of lower-casing. -/
theorem lowerCasing_lowerCase : LowerCasing lowerCase where
  ascii _ _ := rfl
  beyond text c hc hbeyond := by
    refine ⟨c, ?_, .inr hbeyond⟩
    have hkept : c.toLower = c := by
      refine dif_neg fun hupper => ?_
      have hle : c.toNat ≤ 'Z'.toNat := hupper.2
      exact absurd hle (Nat.not_le.2 (Nat.lt_of_lt_of_le (by decide) hbeyond))
    rw [lowerCase, String.toList_ofList]
    exact List.mem_map.2 ⟨c, hc, hkept⟩

section Names

variable {lower : String → String} (hlower : LowerCasing lower)

include hlower

/-- **A name of ASCII letters without a `k`** is found by every lower case or by none. -/
theorem LowerCasing.eq_iff {name : String}
    (hname : ∀ c ∈ name.toList, c ≠ 'k' ∧ c.toNat < 128) (text : String) :
    lower text = name ↔ lowerCase text = name := by
  by_cases hascii : ∀ c ∈ text.toList, c.toNat < 128
  · rw [hlower.ascii text hascii]
  · obtain ⟨c, hc, hbeyond⟩ : ∃ c ∈ text.toList, 128 ≤ c.toNat := by simpa using hascii
    have hne : ∀ lower', LowerCasing lower' → lower' text ≠ name := by
      rintro lower' hlower' rfl
      obtain ⟨d, hd, hk | hd'⟩ := hlower'.beyond text c hc hbeyond
      · exact (hname d hd).1 hk
      · exact absurd (hname d hd).2 (Nat.not_lt.2 hd')
    exact iff_of_false (hne lower hlower) (hne lowerCase lowerCasing_lowerCase)

theorem LogLevel.parse_eq_ok_iff {text : String} {level : LogLevel} :
    LogLevel.parse text = .ok level ↔ lower text ∈ level.names := by
  have hnames : ∀ name ∈ level.names, ∀ c ∈ name.toList, c ≠ 'k' ∧ c.toNat < 128 := by
    cases level <;> simp [LogLevel.names, LogLevel.name]
  have hmem : lower text ∈ level.names ↔ lowerCase text ∈ level.names := by
    constructor
    · exact fun h => (hlower.eq_iff (hnames _ h) text).1 rfl ▸ h
    · exact fun h => (hlower.eq_iff (hnames _ h) text).2 rfl ▸ h
  rw [hmem, LogLevel.parse]
  split <;> rename_i hname <;> cases level <;> simp_all [LogLevel.names, LogLevel.name]

theorem Dialect.parse_eq_ok_iff {text : String} {dialect : Dialect} :
    Dialect.parse text = .ok dialect ↔ lower text = dialect.name := by
  have hname : ∀ c ∈ dialect.name.toList, c ≠ 'k' ∧ c.toNat < 128 := by
    cases dialect <;> simp [Dialect.name]
  rw [hlower.eq_iff hname, Dialect.parse]
  split <;> rename_i htext <;> cases dialect <;> simp_all [Dialect.name]

end Names

/-! ## Layers -/

/-- The value of a setting: the flag's, or else what the variable means, or else the default. -/
def Layered {α : Type} (means : String → α → Prop) (flag? : Option α) (text? : Option String)
    (default value : α) : Prop :=
  match flag?, text? with
  | some flag, _ => value = flag
  | none, some text => means text value
  | none, none => value = default

section Layers

variable {α : Type} {means : String → α → Prop} {text? : Option String} {default value : α}

/-- Without a flag, a setting is what its variable is read as, or the default. -/
theorem readVariable_eq_ok_iff {parse : String → Except SettingsError α}
    (hparse : ∀ {text value}, parse text = .ok value ↔ means text value) :
    readVariable parse default text? = .ok value ↔
      Layered means none text? default value := by
  cases text? with
  | some text => exact hparse
  | none => exact ⟨fun h => (Except.ok.inj h).symm, fun h => congrArg Except.ok h.symm⟩

/-- A flag takes the place of what was there before. -/
theorem Layered.override (h : Layered means none text? default value) (flag? : Option α) :
    Layered means flag? text? default (flag?.getD value) := by
  cases flag? with
  | some flag => rfl
  | none => exact h

/-- Without a flag there is a value unless the variable is set and means none. -/
theorem exists_layered_iff :
    (∃ value, Layered means none text? default value) ↔
      ∀ text ∈ text?, ∃ value, means text value := by
  cases text? with
  | some text => simp [Layered]
  | none => simp [Layered]

end Layers

theorem Settings.validate_eq_ok_iff {s s' : Settings} :
    s.validate = .ok s' ↔ s.maxDepth ≤ 256 ∧ s = s' := by
  unfold Settings.validate
  split
  · rename_i hle
    rw [Except.ok.injEq]
    exact ⟨fun h => ⟨hle, h⟩, And.right⟩
  · rename_i hle
    exact ⟨nofun, fun h => absurd h.1 hle⟩

/-- Without a flag, the depth limit is a number that fits, or the default, which does. -/
theorem readDepth_eq_ok_iff {text? : Option String} {n : Nat} :
    readVariable parseDepth 64 text? = .ok n ∧ n ≤ 256 ↔ Layered SpellsDepth none text? 64 n := by
  rw [readVariable_eq_ok_iff parseDepth_eq_ok_iff]
  cases text? with
  | some text =>
    show (n < Nat.pow 2 64 ∧ Spells text n) ∧ n ≤ 256 ↔ n ≤ 256 ∧ Spells text n
    constructor
    · rintro ⟨⟨-, hspells⟩, hle⟩
      exact ⟨hle, hspells⟩
    · rintro ⟨hle, hspells⟩
      exact ⟨⟨Nat.lt_of_le_of_lt hle (by decide), hspells⟩, hle⟩
  | none =>
    show n = 64 ∧ n ≤ 256 ↔ n = 64
    omega

/-- **Variables over defaults**: each variable is read on its own, and the depth is checked. -/
theorem Settings.fromEnvironment_eq_ok_iff {lower : String → String} (hlower : LowerCasing lower)
    {lookup : String → Option String} {s : Settings} :
    Settings.fromEnvironment lookup = .ok s ↔
      Layered (fun text level => lower text ∈ LogLevel.names level) none
          (lookup "SEARCH_QUERY_LOG_LEVEL") .warn s.logLevel ∧
        Layered SpellsDepth none (lookup "SEARCH_QUERY_MAX_DEPTH") 64 s.maxDepth ∧
        Layered (fun text dialect => lower text = Dialect.name dialect) none
          (lookup "SEARCH_QUERY_DIALECT") .ansi s.dialect := by
  rw [← readVariable_eq_ok_iff (LogLevel.parse_eq_ok_iff hlower), ← readDepth_eq_ok_iff,
    ← readVariable_eq_ok_iff (Dialect.parse_eq_ok_iff hlower)]
  unfold Settings.fromEnvironment
  simp only [bind_eq_ok_iff, Settings.validate_eq_ok_iff]
  constructor
  · rintro ⟨logLevel, hlevel, maxDepth, hdepth, dialect, hdialect, hle, rfl⟩
    exact ⟨hlevel, ⟨hdepth, hle⟩, hdialect⟩
  · rintro ⟨hlevel, ⟨hdepth, hle⟩, hdialect⟩
    exact ⟨_, hlevel, _, hdepth, _, hdialect, hle, rfl⟩

/-- **Flags over variables**: the flags come last, and the depth is checked again. -/
theorem Settings.load_eq_ok_iff {lookup : String → Option String} {flags : Overrides}
    {s : Settings} :
    Settings.load lookup flags = .ok s ↔
      ∃ base, Settings.fromEnvironment lookup = .ok base ∧
        (base.override flags).maxDepth ≤ 256 ∧ base.override flags = s := by
  unfold Settings.load
  simp only [bind_eq_ok_iff, Settings.validate_eq_ok_iff]

/-- Over a depth from below, which fits, a flag fits if it is not above the ceiling. -/
theorem Settings.maxDepth_override_le_iff {s : Settings} {text? : Option String}
    (h : Layered SpellsDepth none text? 64 s.maxDepth) (flags : Overrides) :
    (s.override flags).maxDepth ≤ 256 ↔ ∀ n ∈ flags.maxDepth?, n ≤ 256 := by
  have hle : s.maxDepth ≤ 256 := (readDepth_eq_ok_iff.2 h).2
  show flags.maxDepth?.getD s.maxDepth ≤ 256 ↔ _
  cases flags.maxDepth? with
  | some flag => simp
  | none => simpa using hle

/-- **Settings come in layers.**  They are accepted exactly if the level and the dialect, where
they are set, name one in any case; the depth, where it is set, spells a number of at most 256,
with white space around it, a plus sign and zeros in front; and the flag for the depth is at most
256, if it is given.  So a malformed variable is refused even if a flag overrides it.  Each setting
is the flag's value, or else the variable's, or else the default, and the reader has exactly the
depth limit that was set. -/
theorem load_layers {lower : String → String} (hlower : LowerCasing lower)
    (lookup : String → Option String) (flags : Overrides) :
    ((∃ s, Settings.load lookup flags = .ok s) ↔
      (∀ text ∈ lookup "SEARCH_QUERY_LOG_LEVEL", ∃ level, lower text ∈ LogLevel.names level) ∧
      (∀ text ∈ lookup "SEARCH_QUERY_MAX_DEPTH", ∃ n, SpellsDepth text n) ∧
      (∀ text ∈ lookup "SEARCH_QUERY_DIALECT", ∃ dialect, lower text = Dialect.name dialect) ∧
      ∀ n ∈ flags.maxDepth?, n ≤ 256) ∧
    ∀ s, Settings.load lookup flags = .ok s →
      Layered (fun text level => lower text ∈ LogLevel.names level) flags.logLevel?
        (lookup "SEARCH_QUERY_LOG_LEVEL") .warn s.logLevel ∧
      Layered SpellsDepth flags.maxDepth? (lookup "SEARCH_QUERY_MAX_DEPTH") 64 s.maxDepth ∧
      Layered (fun text dialect => lower text = Dialect.name dialect) flags.dialect?
        (lookup "SEARCH_QUERY_DIALECT") .ansi s.dialect ∧
      s.tokenizer.maxDepth = s.maxDepth := by
  refine ⟨⟨?_, ?_⟩, ?_⟩
  · rintro ⟨s, hload⟩
    obtain ⟨base, hbase, hle, -⟩ := Settings.load_eq_ok_iff.1 hload
    obtain ⟨hlevel, hdepth, hdialect⟩ := (Settings.fromEnvironment_eq_ok_iff hlower).1 hbase
    exact ⟨exists_layered_iff.1 ⟨_, hlevel⟩, exists_layered_iff.1 ⟨_, hdepth⟩,
      exists_layered_iff.1 ⟨_, hdialect⟩, (Settings.maxDepth_override_le_iff hdepth flags).1 hle⟩
  · rintro ⟨hlevel, hdepth, hdialect, hflag⟩
    obtain ⟨level, hlevel⟩ := exists_layered_iff.2 hlevel
    obtain ⟨n, hdepth⟩ := exists_layered_iff.2 hdepth
    obtain ⟨dialect, hdialect⟩ := exists_layered_iff.2 hdialect
    have hbase : Settings.fromEnvironment lookup = .ok ⟨level, n, dialect⟩ :=
      (Settings.fromEnvironment_eq_ok_iff hlower).2 ⟨hlevel, hdepth, hdialect⟩
    have hle := (Settings.maxDepth_override_le_iff (s := ⟨level, n, dialect⟩) hdepth flags).2 hflag
    exact ⟨_, Settings.load_eq_ok_iff.2 ⟨_, hbase, hle, rfl⟩⟩
  · intro s hload
    obtain ⟨base, hbase, hle, rfl⟩ := Settings.load_eq_ok_iff.1 hload
    obtain ⟨hlevel, hdepth, hdialect⟩ := (Settings.fromEnvironment_eq_ok_iff hlower).1 hbase
    exact ⟨hlevel.override _, hdepth.override _, hdialect.override _, Nat.min_eq_left hle⟩

/-- White space, a sign and zeros around a number, and names in capitals. -/
def paddedVariables : List (String × String) :=
  [("SEARCH_QUERY_LOG_LEVEL", "WARNING"), ("SEARCH_QUERY_MAX_DEPTH", "\t+000256\n"),
    ("SEARCH_QUERY_DIALECT", "ANSI")]

/-- They are accepted, and a flag overrides one of them. -/
theorem load_layers_padded :
    LowerCasing lowerCase ∧
      ∃ s, Settings.load (paddedVariables.lookup ·) { dialect? := some .mysql } = .ok s ∧
        lowerCase "WARNING" ∈ s.logLevel.names ∧ SpellsDepth "\t+000256\n" s.maxDepth ∧
        s.dialect = .mysql ∧ s.tokenizer.maxDepth = 256 := by
  have hload : Settings.load (paddedVariables.lookup ·) { dialect? := some .mysql } =
      .ok ⟨.warn, 256, .mysql⟩ := by decide +kernel
  obtain ⟨hlevel, hdepth, hdialect, hreader⟩ :=
    (load_layers lowerCasing_lowerCase _ _).2 _ hload
  exact ⟨lowerCasing_lowerCase, _, hload, hlevel, hdepth, hdialect, hreader⟩

end BooleanSearch
