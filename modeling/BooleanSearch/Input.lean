/-!
# The input of a command

A query that is not among the arguments of a command is read from its input.  The input is read to
its end, and what was read is a query only if reading did not fail and gave text.

* `Input` — what a stream gives, and the failure that may end it;
* `Input.text` — the input as text;
* `Input.text_eq_error_iff` — why there is none.
-/

namespace BooleanSearch

/-- What a stream gives until it ends, or until reading it fails for some reason. -/
structure Input where
  content : ByteArray
  failure? : Option String := none

instance : Coe ByteArray Input where
  coe content := { content }

/-- Why the input is not read. -/
inductive InputError where
  /-- Reading failed before the end. -/
  | streamFailed (reason : String)
  /-- The content is not text in UTF-8. -/
  | notText
  deriving DecidableEq, Repr

/-- The wording of a failure to read. -/
def InputError.message : InputError → String
  | .streamFailed reason => reason
  | .notText => "stream did not contain valid UTF-8"

/-- The whole input as text.  Where reading fails, what was read before does not count. -/
def Input.text (input : Input) : Except InputError String :=
  match input.failure? with
  | some reason => .error (.streamFailed reason)
  | none =>
    match String.fromUTF8? input.content with
    | some text => .ok text
    | none => .error .notText

/-- There is no text if reading failed, or if what was read to the end is none. -/
theorem Input.text_eq_error_iff {input : Input} {cause : InputError} :
    input.text = .error cause ↔
      (∃ reason, input.failure? = some reason ∧ cause = .streamFailed reason) ∨
      input.failure? = none ∧ String.fromUTF8? input.content = none ∧ cause = .notText := by
  cases hfailure : input.failure? with
  | some reason => simp [Input.text, hfailure, eq_comm]
  | none =>
    cases htext : String.fromUTF8? input.content <;> simp [Input.text, hfailure, htext, eq_comm]

end BooleanSearch
