import BooleanSearch.Fragment.Error
import BooleanSearch.Input
import BooleanSearch.Outline
import BooleanSearch.Token.Codec

/-!
# Reports

What a command prints: an outline, a JSON text or a line.  A report is written chunk by chunk to
a sink that may take only so many bytes and refuses the chunk that would be too much.

* `Report.text` — the whole report;
* `Sink.write` — writes chunks as long as the sink takes them;
* `Sink.deliver`, `Report.deliver` — writes chunks, or those of a report, and flushes the sink.
-/

namespace BooleanSearch

/-- Why a command fails. -/
inductive CommandError where
  /-- The query is not among the arguments and not to be had from the input. -/
  | inputUnreadable (cause : InputError)
  /-- The data source is no template for the marker. -/
  | templateInvalid (cause : FormatError)
  /-- A term has no fragment. -/
  | composeFailed (cause : FormatError)
  /-- The sink refused a part of an outline. -/
  | outlineRefused
  /-- The sink refused a part of a JSON text. -/
  | jsonRefused
  /-- The sink refused the line break behind a JSON text. -/
  | lineBreakRefused
  /-- The sink refused a part of a line. -/
  | lineRefused
  /-- The sink took everything and could not be flushed. -/
  | flushRefused
  deriving DecidableEq, Repr

/-- The wording of a failure: what was being done, and the cause. -/
def CommandError.message : CommandError → String
  | .inputUnreadable cause => "failed to read query from stdin: " ++ cause.message
  | .templateInvalid cause => "invalid data source template: " ++ cause.message
  | .composeFailed cause => "failed to compose query: " ++ cause.message
  | .outlineRefused => "failed to write token tree: output limit reached"
  | .jsonRefused => "failed to serialize tokens to JSON: output limit reached"
  | .lineBreakRefused => "failed to terminate JSON output with newline: output limit reached"
  | .lineRefused => "failed to write command output: output limit reached"
  | .flushRefused => "failed to flush command output: flush refused"

/-- What a command prints. -/
inductive Report where
  | outline (e : Expression)
  | json (e : Expression)
  | line (text : String)

/-- The chunks of a report, each with the failure that its refusal means. -/
def Report.chunks : Report → List (String × CommandError)
  | .outline e => (Expression.outlineChunks 0 e).map (·, .outlineRefused)
  | .json e => e.jsonChunks.map (·, .jsonRefused) ++ [("\n", .lineBreakRefused)]
  | .line text => [(text, .lineRefused), ("\n", .lineRefused)]

/-- The whole report. -/
def Report.text : Report → String
  | .outline e => e.outline
  | .json e => e.json ++ "\n"
  | .line text => text ++ "\n"

/-- Where a report goes: at most `limit?` bytes are taken, and flushing may fail. -/
structure Sink where
  limit? : Option Nat := none
  flushFails : Bool := false
  deriving DecidableEq, Repr

/-- May the sink hold so many bytes? -/
def Sink.holds (sink : Sink) (bytes : Nat) : Bool :=
  sink.limit?.all (bytes ≤ ·)

/-- What became of a report: the text that the sink took, and the failure if there was one. -/
structure Delivery where
  taken : String
  failure? : Option CommandError
  deriving DecidableEq, Repr

/-- Writes chunks behind the text that the sink holds, up to the first one that it refuses. -/
def Sink.write (sink : Sink) (taken : String) : List (String × CommandError) → Delivery
  | [] => ⟨taken, none⟩
  | (chunk, failure) :: rest =>
    if sink.holds (taken.utf8ByteSize + chunk.utf8ByteSize) then sink.write (taken ++ chunk) rest
    else ⟨taken, some failure⟩

/-- Writes chunks to a sink and flushes it if all was taken. -/
def Sink.deliver (sink : Sink) (chunks : List (String × CommandError)) : Delivery :=
  match sink.write "" chunks with
  | ⟨taken, none⟩ => ⟨taken, if sink.flushFails then some .flushRefused else none⟩
  | refused => refused

/-- Writes a report and flushes the sink if all was taken. -/
def Report.deliver (r : Report) (sink : Sink) : Delivery :=
  sink.deliver r.chunks

end BooleanSearch
