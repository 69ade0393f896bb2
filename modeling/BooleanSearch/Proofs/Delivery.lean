import BooleanSearch.Program

/-!
# Writing to a sink with a limit

A report is written chunk by chunk, and a sink that may hold only so many bytes refuses the first
chunk that would be too much.  Nothing is written twice or out of order, so what the sink took is
always an initial part of the report; and a command that cannot make its report writes nothing.

* `Sink.write_append` — writing goes on behind what was taken;
* `Sink.write_isPrefix`, `Sink.write_complete_iff`, `Sink.failure_mem` — what was taken, when that
  is all, and which failure is reported, each by induction on the chunks;
* `Sink.write_divided` — a chunk may as well be written in several pieces;
* `Sink.taken_deliver`, `Sink.failure_deliver` — what flushing adds to that;
* `Report.deliver_complete_iff`, `Report.deliver_isPrefix`, `Report.deliver_json_text`,
  `Report.deliver_json_lineBreak` — the same for a report and the flush behind it;
* `Command.NoReport`, `Command.report_eq_error_iff` — the reasons why a command makes no report, and
  that there is no other;
* `Command.runDivided` — a command carried out with its chunks in pieces;
* `run_limited` — the statement for every command.
-/

namespace BooleanSearch

/-! ## Chunks -/

/-- The text that chunks make up. -/
def chunkText (chunks : List (String × CommandError)) : String :=
  String.join (chunks.map Prod.fst)

@[simp] theorem chunkText_nil : chunkText [] = "" := rfl

@[simp] theorem chunkText_cons (chunk : String × CommandError)
    (chunks : List (String × CommandError)) :
    chunkText (chunk :: chunks) = chunk.1 ++ chunkText chunks :=
  String.join_cons

@[simp] theorem chunkText_append (chunks chunks' : List (String × CommandError)) :
    chunkText (chunks ++ chunks') = chunkText chunks ++ chunkText chunks' := by
  rw [chunkText, List.map_append, String.join_append]
  rfl

/-- Texts whose refusal means one failure. -/
def refusedAs (failure : CommandError) (texts : List String) : List (String × CommandError) :=
  texts.map (·, failure)

@[simp] theorem chunkText_refusedAs (failure : CommandError) (texts : List String) :
    chunkText (refusedAs failure texts) = String.join texts := by
  rw [chunkText, refusedAs, List.map_map]
  exact congrArg String.join (List.map_id texts)

/-- The chunks of a JSON report: those of its text, and a line break. -/
theorem Report.chunks_json (e : Expression) :
    (Report.json e).chunks =
      refusedAs .jsonRefused e.jsonChunks ++ [("\n", .lineBreakRefused)] := rfl

/-- The chunks of a report make up its text. -/
theorem Report.chunkText_chunks (r : Report) : chunkText r.chunks = r.text := by
  cases r with
  | outline e => exact chunkText_refusedAs _ _
  | json e =>
    rw [Report.chunks_json, chunkText_append, chunkText_refusedAs]
    rfl
  | line text =>
    show text ++ ("\n" ++ "") = text ++ "\n"
    rw [String.append_empty]

/-! ## Writing -/

/-- A sink that may hold so many bytes may hold fewer. -/
theorem Sink.holds_of_le {sink : Sink} {bytes bytes' : Nat} (h : sink.holds bytes = true)
    (hle : bytes' ≤ bytes) : sink.holds bytes' = true := by
  obtain ⟨limit?, flushFails⟩ := sink
  cases limit? with
  | none => rfl
  | some limit =>
    have hbytes : bytes ≤ limit := of_decide_eq_true h
    exact decide_eq_true (Nat.le_trans hle hbytes)

/-- At first nothing is taken, and that much every sink may hold. -/
theorem Sink.holds_empty (sink : Sink) : sink.holds "".utf8ByteSize = true := by
  obtain ⟨limit?, flushFails⟩ := sink
  cases limit? with
  | none => rfl
  | some limit => exact decide_eq_true (Nat.zero_le limit)

section Write

variable (sink : Sink)

/-- Writing goes on behind what was taken, unless a chunk was refused. -/
theorem Sink.write_append (taken : String) (chunks chunks' : List (String × CommandError)) :
    sink.write taken (chunks ++ chunks') =
      match sink.write taken chunks with
      | ⟨taken', none⟩ => sink.write taken' chunks'
      | refused => refused := by
  induction chunks generalizing taken with
  | nil => rfl
  | cons chunk chunks ih =>
    rw [List.cons_append, Sink.write, Sink.write]
    split
    · exact ih _
    · rfl

/-- Behind a refusal nothing is written. -/
theorem Sink.write_append_of_refused {taken : String} {chunks : List (String × CommandError)}
    {failure : CommandError} (h : (sink.write taken chunks).failure? = some failure)
    (chunks' : List (String × CommandError)) :
    sink.write taken (chunks ++ chunks') = sink.write taken chunks := by
  rw [Sink.write_append]
  generalize sink.write taken chunks = delivery at h
  obtain ⟨taken', failure?⟩ := delivery
  obtain rfl : failure? = some failure := h
  rfl

/-- **What was taken is an initial part** of the text. -/
theorem Sink.write_isPrefix (taken : String) (chunks : List (String × CommandError)) :
    ∃ rest, (sink.write taken chunks).taken ++ rest = taken ++ chunkText chunks := by
  induction chunks generalizing taken with
  | nil => exact ⟨"", rfl⟩
  | cons chunk chunks ih =>
    rw [Sink.write]
    split
    · obtain ⟨rest, hrest⟩ := ih (taken ++ chunk.1)
      exact ⟨rest, by rw [hrest, chunkText_cons, String.append_assoc]⟩
    · exact ⟨_, rfl⟩

/-- Where nothing was refused, all of the text was taken. -/
theorem Sink.write_of_complete {taken : String} {chunks : List (String × CommandError)}
    (h : (sink.write taken chunks).failure? = none) :
    sink.write taken chunks = ⟨taken ++ chunkText chunks, none⟩ := by
  induction chunks generalizing taken with
  | nil => rw [Sink.write, chunkText_nil, String.append_empty]
  | cons chunk chunks ih =>
    rw [Sink.write] at h ⊢
    split at h
    · rename_i hholds
      rw [if_pos hholds, ih h, chunkText_cons, String.append_assoc]
    · cases h

/-- **Nothing is refused exactly if the sink may hold the whole text.** -/
theorem Sink.write_complete_iff {taken : String} (htaken : sink.holds taken.utf8ByteSize = true)
    (chunks : List (String × CommandError)) :
    (sink.write taken chunks).failure? = none ↔
      sink.holds (taken.utf8ByteSize + (chunkText chunks).utf8ByteSize) = true := by
  induction chunks generalizing taken with
  | nil => exact ⟨fun _ => htaken, fun _ => rfl⟩
  | cons chunk chunks ih =>
    rw [Sink.write, chunkText_cons, String.utf8ByteSize_append, ← Nat.add_assoc]
    split
    · rename_i hholds
      rw [← String.utf8ByteSize_append] at hholds ⊢
      exact ih hholds
    · rename_i hholds
      constructor
      · intro hfailure
        cases hfailure
      · intro hall
        exact absurd (Sink.holds_of_le hall (Nat.le_add_right _ _)) hholds

/-- A refusal is reported by the failure of a chunk. -/
theorem Sink.failure_mem {taken : String} {chunks : List (String × CommandError)}
    {failure : CommandError} (h : (sink.write taken chunks).failure? = some failure) :
    failure ∈ chunks.map Prod.snd := by
  induction chunks generalizing taken with
  | nil => cases h
  | cons chunk chunks ih =>
    rw [Sink.write] at h
    split at h
    · exact List.mem_cons_of_mem _ (ih h)
    · obtain rfl := Option.some.inj h
      exact List.mem_cons_self

/-- Texts whose refusal means one failure are all taken, or give that failure. -/
theorem Sink.write_refusedAs {taken : String} (htaken : sink.holds taken.utf8ByteSize = true)
    (failure : CommandError) (texts : List String) :
    if sink.holds (taken.utf8ByteSize + (String.join texts).utf8ByteSize) = true then
      sink.write taken (refusedAs failure texts) = ⟨taken ++ String.join texts, none⟩
    else (sink.write taken (refusedAs failure texts)).failure? = some failure := by
  have hcomplete := sink.write_complete_iff htaken (refusedAs failure texts)
  rw [chunkText_refusedAs] at hcomplete
  split
  · rename_i hholds
    rw [sink.write_of_complete (hcomplete.2 hholds), chunkText_refusedAs]
  · rename_i hholds
    cases hfailure : (sink.write taken (refusedAs failure texts)).failure? with
    | none => exact absurd (hcomplete.1 hfailure) hholds
    | some failure' =>
      have hmem := sink.failure_mem hfailure
      rw [refusedAs, List.map_map, List.mem_map] at hmem
      obtain ⟨_, _, rfl⟩ := hmem
      rfl

/-! ## Chunks in pieces -/

/-- Chunks, each of which is written in the pieces that `divide` gives. -/
def dividedChunks (divide : String → List String) (chunks : List (String × CommandError)) :
    List (String × CommandError) :=
  chunks.flatMap fun chunk => refusedAs chunk.2 (divide chunk.1)

section Divided

variable {divide : String → List String} (hdivide : ∀ chunk, String.join (divide chunk) = chunk)

include hdivide

theorem chunkText_dividedChunks (chunks : List (String × CommandError)) :
    chunkText (dividedChunks divide chunks) = chunkText chunks := by
  induction chunks with
  | nil => rfl
  | cons chunk chunks ih =>
    rw [dividedChunks, List.flatMap_cons, chunkText_append, chunkText_refusedAs, hdivide,
      chunkText_cons]
    exact congrArg (chunk.1 ++ ·) ih

/-- **How chunks are divided does not matter** to whether all is taken, nor to the failure. -/
theorem Sink.write_divided {taken : String} (htaken : sink.holds taken.utf8ByteSize = true)
    (chunks : List (String × CommandError)) :
    (sink.write taken (dividedChunks divide chunks)).failure? =
      (sink.write taken chunks).failure? := by
  induction chunks generalizing taken with
  | nil => rfl
  | cons chunk chunks ih =>
    -- the pieces fit together if the chunk does; if not, one of them fails in the chunk's place
    have hpieces := sink.write_refusedAs htaken chunk.2 (divide chunk.1)
    rw [hdivide] at hpieces
    rw [dividedChunks, List.flatMap_cons, Sink.write]
    split at hpieces
    · rename_i hholds
      have hnext := hholds
      rw [← String.utf8ByteSize_append] at hnext
      rw [Sink.write_append, hpieces, if_pos hholds]
      exact ih hnext
    · rename_i hholds
      rw [sink.write_append_of_refused hpieces, hpieces, if_neg hholds]

end Divided

end Write

/-! ## Flushing -/

section Deliver

variable (sink : Sink) (chunks : List (String × CommandError))

/-- Flushing takes nothing away and adds nothing. -/
theorem Sink.taken_deliver : (sink.deliver chunks).taken = (sink.write "" chunks).taken := by
  rw [Sink.deliver]
  generalize sink.write "" chunks = delivery
  obtain ⟨taken, _ | failure⟩ := delivery <;> rfl

/-- The first failure counts, and flushing comes last. -/
theorem Sink.failure_deliver :
    (sink.deliver chunks).failure? =
      (sink.write "" chunks).failure?.or
        (if sink.flushFails then some .flushRefused else none) := by
  rw [Sink.deliver]
  generalize sink.write "" chunks = delivery
  obtain ⟨taken, _ | failure⟩ := delivery <;> rfl

/-- What was taken is an initial part of the text, also where flushing failed. -/
theorem Sink.deliver_isPrefix :
    ∃ rest, (sink.deliver chunks).taken ++ rest = chunkText chunks := by
  have hwrite := sink.write_isPrefix "" chunks
  rw [String.empty_append] at hwrite
  rw [sink.taken_deliver]
  exact hwrite

/-- However chunks are divided, the same failure is reported. -/
theorem Sink.deliver_divided {divide : String → List String}
    (hdivide : ∀ chunk, String.join (divide chunk) = chunk) :
    (sink.deliver (dividedChunks divide chunks)).failure? = (sink.deliver chunks).failure? := by
  rw [sink.failure_deliver, sink.failure_deliver, sink.write_divided hdivide sink.holds_empty]

end Deliver

/-! ## Reports -/

namespace Report

variable (r : Report) (sink : Sink)

/-- All of a report is taken by a sink that may hold it. -/
theorem write_complete_iff :
    (sink.write "" r.chunks).failure? = none ↔ sink.holds r.text.utf8ByteSize = true := by
  have hcomplete := sink.write_complete_iff sink.holds_empty r.chunks
  rw [r.chunkText_chunks, String.utf8ByteSize_empty, Nat.zero_add] at hcomplete
  exact hcomplete

/-- A sink without a limit takes the whole report. -/
theorem deliver_unlimited : r.deliver {} = ⟨r.text, none⟩ := by
  have hcomplete : (Sink.write {} "" r.chunks).failure? = none := (r.write_complete_iff {}).2 rfl
  rw [Report.deliver, Sink.deliver, Sink.write_of_complete {} hcomplete, String.empty_append,
    r.chunkText_chunks]
  rfl

/-- **A report is delivered** exactly if the sink may hold it and can be flushed. -/
theorem deliver_complete_iff :
    (r.deliver sink).failure? = none ↔
      sink.holds r.text.utf8ByteSize = true ∧ sink.flushFails = false := by
  rw [Report.deliver, sink.failure_deliver, Option.or_eq_none_iff, r.write_complete_iff]
  cases sink.flushFails <;> simp

/-- **What was taken of a report is an initial part of it**, also where flushing failed. -/
theorem deliver_isPrefix : ∃ rest, (r.deliver sink).taken ++ rest = r.text := by
  rw [← r.chunkText_chunks]
  exact sink.deliver_isPrefix r.chunks

/-- The text of a JSON report is all taken, or refused as JSON. -/
theorem write_json (e : Expression) :
    if sink.holds e.json.utf8ByteSize = true then
      sink.write "" (refusedAs .jsonRefused e.jsonChunks) = ⟨e.json, none⟩
    else (sink.write "" (refusedAs .jsonRefused e.jsonChunks)).failure? = some .jsonRefused := by
  have htext := sink.write_refusedAs sink.holds_empty .jsonRefused e.jsonChunks
  rw [String.empty_append, String.utf8ByteSize_empty, Nat.zero_add] at htext
  exact htext

/-- **Without room for its text**, a JSON report fails as JSON. -/
theorem deliver_json_text (e : Expression) (flushFails : Bool) {limit : Nat}
    (h : limit < e.json.utf8ByteSize) :
    ((Report.json e).deliver ⟨some limit, flushFails⟩).failure? = some .jsonRefused := by
  have hholds : Sink.holds ⟨some limit, flushFails⟩ e.json.utf8ByteSize = false :=
    decide_eq_false (Nat.not_le.2 h)
  have htext := write_json ⟨some limit, flushFails⟩ e
  rw [hholds, if_neg Bool.false_ne_true] at htext
  rw [Report.deliver, Sink.failure_deliver, chunks_json, Sink.write_append_of_refused _ htext,
    htext, Option.some_or]

/-- **With room for its text and no more**, it fails at the line break. -/
theorem deliver_json_lineBreak (e : Expression) (flushFails : Bool) :
    ((Report.json e).deliver ⟨some e.json.utf8ByteSize, flushFails⟩).failure? =
      some .lineBreakRefused := by
  have hholds : Sink.holds ⟨some e.json.utf8ByteSize, flushFails⟩ e.json.utf8ByteSize = true :=
    decide_eq_true (Nat.le_refl _)
  have hbreak : Sink.holds ⟨some e.json.utf8ByteSize, flushFails⟩
      (e.json.utf8ByteSize + "\n".utf8ByteSize) = false :=
    decide_eq_false (Nat.not_le.2 (Nat.lt_succ_self _))
  have htext := write_json ⟨some e.json.utf8ByteSize, flushFails⟩ e
  rw [if_pos hholds] at htext
  have hwrite : (Sink.write ⟨some e.json.utf8ByteSize, flushFails⟩ ""
      (Report.json e).chunks).failure? = some .lineBreakRefused := by
    rw [chunks_json, Sink.write_append, htext]
    show (Sink.write ⟨some e.json.utf8ByteSize, flushFails⟩ e.json
      [("\n", .lineBreakRefused)]).failure? = some .lineBreakRefused
    rw [Sink.write, hbreak]
    rfl
  rw [Report.deliver, Sink.failure_deliver, hwrite, Option.some_or]

end Report

/-! ## Commands -/

/-- Why a command makes no report. -/
inductive Command.NoReport (settings : Settings) (input : Input) :
    Command → CommandError → Prop where
  /-- The query is to be read from an input that fails before its end. -/
  | inputFailed {c : Command} {reason : String} :
    c.query? = none → input.failure? = some reason →
      NoReport settings input c (.inputUnreadable (.streamFailed reason))
  /-- The query is to be read from an input that is no text. -/
  | inputNotText {c : Command} :
    c.query? = none → input.failure? = none → String.fromUTF8? input.content = none →
      NoReport settings input c (.inputUnreadable .notText)
  /-- The data source is no template for the marker. -/
  | templateInvalid {query? marker? : Option String} {source text : String}
      {dialect? : Option Dialect} {cause : FormatError} :
    readQuery input query? = .ok text → DataSource.parse source marker? = .error cause →
      NoReport settings input (.compose query? source marker? dialect?) (.templateInvalid cause)
  /-- A term of the query has no fragment. -/
  | composeFailed {query? marker? : Option String} {source text : String}
      {dialect? : Option Dialect} {dataSource : DataSource} {cause : FormatError} :
    readQuery input query? = .ok text → DataSource.parse source marker? = .ok dataSource →
      (Query.parse settings.tokenizer text).compose
        (LikeFormatter.format ⟨dataSource, settings.dialect.quoter⟩) = .error cause →
      NoReport settings input (.compose query? source marker? dialect?) (.composeFailed cause)

/-- Carries out a command, and writes each chunk of its report in the pieces that `divide` gives. -/
def Command.runDivided (c : Command) (divide : String → List String) (settings : Settings)
    (input : Input) (sink : Sink) : Delivery :=
  match (c.prepare settings input).report with
  | .ok report => sink.deliver (dividedChunks divide report.chunks)
  | .error failure => ⟨"", some failure⟩

/-- Does the command print its expression as JSON? -/
def Command.printsJson : Command → Bool
  | .tokenize _ json | .filter _ json => json
  | .reconstruct .. | .compose .. => false

namespace Command

variable {c : Command} {settings : Settings} {input : Input}

/-- The query cannot be read exactly if it was not given and the input is not to be had as text. -/
theorem readQuery_eq_error_iff {query? : Option String} {failure : CommandError} :
    readQuery input query? = .error failure ↔
      query? = none ∧ ∃ cause, input.text = .error cause ∧ failure = .inputUnreadable cause := by
  cases query? with
  | some query => simp [readQuery]
  | none =>
    cases htext : input.text with
    | ok text =>
      have hread : readQuery input none = .ok text := by
        rw [readQuery, htext]
        rfl
      simp [hread]
    | error cause =>
      have hread : readQuery input none = .error (.inputUnreadable cause) := by
        rw [readQuery, htext]
        rfl
      simp [hread, eq_comm]

/-- A filter is not made if the data source is refused or composing fails. -/
theorem prepareFilter_eq_error_iff {text source : String} {marker? : Option String}
    {failure : CommandError} :
    (prepareFilter settings text source marker?).report = .error failure ↔
      (∃ cause, DataSource.parse source marker? = .error cause ∧
        failure = .templateInvalid cause) ∨
      ∃ dataSource cause, DataSource.parse source marker? = .ok dataSource ∧
        (Query.parse settings.tokenizer text).compose
          (LikeFormatter.format ⟨dataSource, settings.dialect.quoter⟩) = .error cause ∧
        failure = .composeFailed cause := by
  cases hsource : DataSource.parse source marker? with
  | error cause => simp [prepareFilter, hsource, eq_comm]
  | ok dataSource =>
    cases hcompose : (Query.parse settings.tokenizer text).compose
        (LikeFormatter.format ⟨dataSource, settings.dialect.quoter⟩) with
    | error cause => simp [prepareFilter, hsource, hcompose, eq_comm]
    | ok filter => simp [prepareFilter, hsource, hcompose]

/-- **A command makes no report for one of these reasons**, and for no other. -/
theorem report_eq_error_iff {failure : CommandError} :
    (c.prepare settings input).report = .error failure ↔ c.NoReport settings input failure := by
  constructor
  · intro h
    cases hread : readQuery input c.query? with
    | error cause =>
      rw [Command.prepare, hread] at h
      obtain rfl : cause = failure := Except.error.inj h
      obtain ⟨hquery, reading, htext, rfl⟩ := readQuery_eq_error_iff.1 hread
      obtain ⟨reason, hfailure, rfl⟩ | ⟨hfailure, hcontent, rfl⟩ := Input.text_eq_error_iff.1 htext
      · exact .inputFailed hquery hfailure
      · exact .inputNotText hquery hfailure hcontent
    | ok text =>
      rw [Command.prepare, hread] at h
      cases c with
      | tokenize query? json => cases h
      | filter query? json => cases h
      | reconstruct query? normalised => cases normalised <;> cases h
      | compose query? source marker? dialect? =>
        obtain ⟨cause, hsource, rfl⟩ | ⟨dataSource, cause, hsource, hcompose, rfl⟩ :=
          prepareFilter_eq_error_iff.1 h
        · exact .templateInvalid hread hsource
        · exact .composeFailed hread hsource hcompose
  · intro h
    cases h with
    | inputFailed hquery hfailure =>
      have htext := Input.text_eq_error_iff.2 (.inl ⟨_, hfailure, rfl⟩)
      rw [Command.prepare, readQuery_eq_error_iff.2 ⟨hquery, _, htext, rfl⟩]
    | inputNotText hquery hfailure hcontent =>
      have htext := Input.text_eq_error_iff.2 (.inr ⟨hfailure, hcontent, rfl⟩)
      rw [Command.prepare, readQuery_eq_error_iff.2 ⟨hquery, _, htext, rfl⟩]
    | templateInvalid hread hsource =>
      rw [Command.prepare, Command.query?, hread]
      exact prepareFilter_eq_error_iff.2 (.inl ⟨_, hsource, rfl⟩)
    | composeFailed hread hsource hcompose =>
      rw [Command.prepare, Command.query?, hread]
      exact prepareFilter_eq_error_iff.2 (.inr ⟨_, _, hsource, hcompose, rfl⟩)

/-- Without a report nothing is written, whatever the sink takes. -/
theorem run_of_error {failure : CommandError}
    (h : (c.prepare settings input).report = .error failure) (sink : Sink) :
    c.run settings input sink = ⟨"", some failure⟩ := by
  rw [Command.run, Prepared.deliver, h]

theorem run_of_report {report : Report} (h : (c.prepare settings input).report = .ok report)
    (sink : Sink) : c.run settings input sink = report.deliver sink := by
  rw [Command.run, Prepared.deliver, h]

theorem runDivided_of_error {failure : CommandError}
    (h : (c.prepare settings input).report = .error failure) (divide : String → List String)
    (sink : Sink) : c.runDivided divide settings input sink = ⟨"", some failure⟩ := by
  rw [Command.runDivided, h]

theorem runDivided_of_report {report : Report} (h : (c.prepare settings input).report = .ok report)
    (divide : String → List String) (sink : Sink) :
    c.runDivided divide settings input sink =
      sink.deliver (dividedChunks divide report.chunks) := by
  rw [Command.runDivided, h]

/-- In pieces that are whole chunks a command writes as it does by itself. -/
theorem runDivided_whole (sink : Sink) :
    c.runDivided (fun chunk => [chunk]) settings input sink = c.run settings input sink := by
  have hwhole : ∀ chunks, dividedChunks (fun chunk => [chunk]) chunks = chunks :=
    List.flatMap_singleton'
  cases hreport : (c.prepare settings input).report with
  | error failure => rw [runDivided_of_error hreport, run_of_error hreport]
  | ok report =>
    rw [runDivided_of_report hreport, run_of_report hreport, hwhole, Report.deliver]

/-- **How the chunks are divided does not matter** to the failure of a command. -/
theorem failure_runDivided {divide : String → List String}
    (hdivide : ∀ chunk, String.join (divide chunk) = chunk) (sink : Sink) :
    (c.runDivided divide settings input sink).failure? =
      (c.run settings input sink).failure? := by
  cases hreport : (c.prepare settings input).report with
  | error failure => rw [runDivided_of_error hreport, run_of_error hreport]
  | ok report =>
    rw [runDivided_of_report hreport, run_of_report hreport]
    exact sink.deliver_divided report.chunks hdivide

/-- A run that a sink without a limit takes whole has made a report, and printed its text. -/
theorem report_of_run {full : String} (h : c.run settings input {} = ⟨full, none⟩) :
    ∃ report, (c.prepare settings input).report = .ok report ∧ report.text = full := by
  cases hreport : (c.prepare settings input).report with
  | error failure =>
    rw [run_of_error hreport] at h
    cases h
  | ok report =>
    rw [run_of_report hreport, report.deliver_unlimited] at h
    exact ⟨report, rfl, congrArg Delivery.taken h⟩

/-- What a command prints as JSON is a JSON report. -/
theorem report_of_printsJson (hjson : c.printsJson = true) {report : Report}
    (h : (c.prepare settings input).report = .ok report) : ∃ e, report = .json e := by
  rw [Command.prepare] at h
  split at h
  · cases c with
    | tokenize query? json =>
      obtain rfl : json = true := hjson
      exact ⟨_, (Except.ok.inj h).symm⟩
    | filter query? json =>
      obtain rfl : json = true := hjson
      exact ⟨_, (Except.ok.inj h).symm⟩
    | reconstruct query? normalised => cases hjson
    | compose query? source marker? dialect? => cases hjson
  · cases h

end Command

/-- **A limit is noticed and never garbles what was written.**  Let a command print `full` on a sink
without a limit.  On a sink with a limit it succeeds exactly if `full` fits and the sink can be
flushed; what the sink took is an initial part of `full` in any case; and a JSON report that does
not fit says whether its text or its line break was refused.  A command that can make no report
writes nothing, whatever the sink takes, and there is no other reason to fail on a sink without a
limit.  All of this is the same however the chunks are divided into writes: the run fails as it
does in whole chunks, takes an initial part of `full`, and writes nothing without a report. -/
theorem run_limited (c : Command) (settings : Settings) (input : Input) :
    (∀ full, c.run settings input {} = ⟨full, none⟩ → ∀ (limit : Nat) (flushFails : Bool),
      ((c.run settings input ⟨some limit, flushFails⟩).failure? = none ↔
        full.utf8ByteSize ≤ limit ∧ flushFails = false) ∧
      (∃ rest, (c.run settings input ⟨some limit, flushFails⟩).taken ++ rest = full) ∧
      (c.printsJson = true → ∃ json, full = json ++ "\n" ∧
        (limit < json.utf8ByteSize →
          (c.run settings input ⟨some limit, flushFails⟩).failure? = some .jsonRefused) ∧
        (limit = json.utf8ByteSize →
          (c.run settings input ⟨some limit, flushFails⟩).failure? =
            some .lineBreakRefused))) ∧
    (∀ failure, c.NoReport settings input failure →
      ∀ sink, c.run settings input sink = ⟨"", some failure⟩) ∧
    ((∃ full, c.run settings input {} = ⟨full, none⟩) ∨
      ∃ failure, c.NoReport settings input failure) ∧
    ∀ divide : String → List String, (∀ chunk, String.join (divide chunk) = chunk) →
      ∀ sink : Sink,
        (c.runDivided divide settings input sink).failure? =
            (c.run settings input sink).failure? ∧
          (∀ full, c.run settings input {} = ⟨full, none⟩ →
            ∃ rest, (c.runDivided divide settings input sink).taken ++ rest = full) ∧
          ∀ failure, c.NoReport settings input failure →
            c.runDivided divide settings input sink = ⟨"", some failure⟩ := by
  refine ⟨?_, ?_, ?_, ?_⟩
  · intro full hfull limit flushFails
    obtain ⟨report, hreport, rfl⟩ := Command.report_of_run hfull
    rw [Command.run_of_report hreport]
    refine ⟨?_, report.deliver_isPrefix _, fun hjson => ?_⟩
    · rw [report.deliver_complete_iff]
      exact and_congr_left' decide_eq_true_iff
    · obtain ⟨e, rfl⟩ := Command.report_of_printsJson hjson hreport
      refine ⟨e.json, rfl, fun hlimit => ?_, fun hlimit => ?_⟩
      · exact Report.deliver_json_text e flushFails hlimit
      · rw [hlimit]
        exact Report.deliver_json_lineBreak e flushFails
  · intro failure hfailure
    exact Command.run_of_error (Command.report_eq_error_iff.2 hfailure)
  · cases hreport : (c.prepare settings input).report with
    | error failure => exact .inr ⟨failure, Command.report_eq_error_iff.1 hreport⟩
    | ok report =>
      refine .inl ⟨report.text, ?_⟩
      rw [Command.run_of_report hreport, report.deliver_unlimited]
  · intro divide hdivide sink
    refine ⟨Command.failure_runDivided hdivide sink, fun full hfull => ?_, fun failure h => ?_⟩
    · obtain ⟨report, hreport, rfl⟩ := Command.report_of_run hfull
      rw [Command.runDivided_of_report hreport, ← report.chunkText_chunks,
        ← chunkText_dividedChunks hdivide]
      exact sink.deliver_isPrefix _
    · exact Command.runDivided_of_error (Command.report_eq_error_iff.2 h) divide sink

/-- A sink that lacks room for the last byte of a JSON text, for the line break behind it, or for
nothing, and the first of these written byte by byte; a term that has no literal, on a sink that
takes nothing; and an input that fails. -/
theorem run_limited_json :
    (Command.tokenize (some "a") true).run {} ByteArray.empty {} =
        ⟨"[\x7b\"type\":\"value\",\"value\":\"a\"\x7d]\n", none⟩ ∧
      (Command.tokenize (some "a") true).printsJson = true ∧
      ((Command.tokenize (some "a") true).run {} ByteArray.empty ⟨some 29, false⟩).failure? =
        some .jsonRefused ∧
      ((Command.tokenize (some "a") true).run {} ByteArray.empty ⟨some 30, false⟩).failure? =
        some .lineBreakRefused ∧
      ((Command.tokenize (some "a") true).run {} ByteArray.empty ⟨some 31, false⟩).failure? =
        none ∧
      ((Command.tokenize (some "a") true).runDivided
        (fun chunk => chunk.toList.map String.singleton) {} ByteArray.empty
        ⟨some 29, false⟩).failure? = some .jsonRefused ∧
      (Command.compose (some "\x00") "c" none none).NoReport {} ByteArray.empty
        (.composeFailed (.unquotable "%\x00%" "literal contains a NUL character")) ∧
      (Command.compose (some "\x00") "c" none none).run {} ByteArray.empty ⟨some 0, true⟩ =
        ⟨"", some (.composeFailed (.unquotable "%\x00%" "literal contains a NUL character"))⟩ ∧
      (Command.tokenize none false).run {} ⟨"a".toUTF8, some "Is a directory"⟩ {} =
        ⟨"", some (.inputUnreadable (.streamFailed "Is a directory"))⟩ := by
  have hfull : (Command.tokenize (some "a") true).run {} ByteArray.empty {} =
      ⟨"[\x7b\"type\":\"value\",\"value\":\"a\"\x7d]\n", none⟩ := by decide +kernel
  have hnul : (Command.compose (some "\x00") "c" none none).NoReport {} ByteArray.empty
      (.composeFailed (.unquotable "%\x00%" "literal contains a NUL character")) :=
    .composeFailed rfl rfl rfl
  have hlimited := (run_limited (.tokenize (some "a") true) {} ByteArray.empty).1 _ hfull
  have hdivided := (run_limited (.tokenize (some "a") true) {} ByteArray.empty).2.2.2
  obtain ⟨json, hjson, hshort, -⟩ := (hlimited 29 false).2.2 rfl
  obtain ⟨json', hjson', -, hbreak⟩ := (hlimited 30 false).2.2 rfl
  have hsize : ∀ text : String, "[\x7b\"type\":\"value\",\"value\":\"a\"\x7d]\n" = text ++ "\n" →
      text.utf8ByteSize = 30 := by
    intro text heq
    have htotal : 31 = (text ++ "\n").utf8ByteSize := congrArg String.utf8ByteSize heq
    rw [String.utf8ByteSize_append] at htotal
    exact (Nat.succ.inj htotal).symm
  have htight := hshort (by rw [hsize json hjson]; decide)
  refine ⟨hfull, rfl, htight, hbreak (hsize json' hjson').symm, ?_, ?_, hnul, ?_, ?_⟩
  · exact (hlimited 31 false).1.2 ⟨by decide, rfl⟩
  · refine (hdivided _ (fun chunk => ?_) ⟨some 29, false⟩).1.trans htight
    rw [← String.toList_inj, String.toList_join]
    simp [List.flatMap_map]
  · exact (run_limited (.compose (some "\x00") "c" none none) {} ByteArray.empty).2.1 _ hnul _
  · exact (run_limited (.tokenize none false) {} ⟨"a".toUTF8, some "Is a directory"⟩).2.1 _
      (.inputFailed rfl rfl) {}

end BooleanSearch
