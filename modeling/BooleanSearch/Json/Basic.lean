import BooleanSearch.Text.Character

/-!
# JSON documents

The tree of a JSON text, as far as reading expressions needs it.  Objects keep their members in
the order in which they were written, repeated names included.  A string that names an unpaired
surrogate holds no text, and of a number only what the module on numbers says is kept.

* `Json` — the tree;
* `Json.isLossless` — every string holds text, every number is in range, and containers nest no
  deeper than a bound;
* `jsonString` — a text as a JSON string.
-/

namespace BooleanSearch

/-- A JSON value. -/
inductive Json where
  | null
  | bool (value : Bool)
  /-- A number: its value if it is written as a natural number, and whether it is in range. -/
  | number (natural? : Option Nat) (finite : Bool)
  /-- A string; no text if an escape names an unpaired surrogate. -/
  | string (text? : Option String)
  | array (items : List Json)
  | object (members : List (Option String × Json))
  deriving Inhabited

/-- Can the whole value be kept without loss, with containers nested at most so deep? -/
def Json.isLossless : (containers : Nat) → Json → Bool
  | _, .null | _, .bool _ => true
  | _, .number _ finite => finite
  | _, .string text? => text?.isSome
  | 0, .array _ | 0, .object _ => false
  | containers + 1, .array items => items.all (Json.isLossless containers)
  | containers + 1, .object members =>
    members.all fun (name?, value) => name?.isSome && Json.isLossless containers value

/-! ## Strings -/

/-- The characters that stand for one character inside a JSON string.  Quote, backslash and the
control characters are escaped; everything else stands for itself. -/
def jsonEscape (c : Char) : List Char :=
  if c = '"' then ['\\', '"']
  else if c = '\\' then ['\\', '\\']
  else if c = '\x08' then ['\\', 'b']
  else if c = '\x0c' then ['\\', 'f']
  else if c = '\n' then ['\\', 'n']
  else if c = '\r' then ['\\', 'r']
  else if c = '\t' then ['\\', 't']
  else if c.toNat < 0x10 then ['\\', 'u', '0', '0', '0'] ++ hexDigits c.toNat
  else if c.toNat < 0x20 then ['\\', 'u', '0', '0'] ++ hexDigits c.toNat
  else [c]

/-- A text as a JSON string, with its quotes. -/
def jsonString (text : String) : String :=
  String.ofList ('"' :: text.toList.flatMap jsonEscape ++ ['"'])

end BooleanSearch
