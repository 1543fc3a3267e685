import BoltV3.Evidence.Streams

/-!
# An evidence stream holds the records that have a receipt

The streams of the recorder over all interleavings of appends and closes and all failures of a write
or a sync.
-/

namespace BoltV3.Evidence

open Lib List

namespace Recorder

section Steps

variable {ι : Type} [DecidableEq ι] {calls : ι → AppendCall} {opening : Opening}
  {s t : Recorder ι} {k : KnownSink} {i : ι} {opened : List UInt8} {order : List ι}
  {mode : SinkMode ι}

/-! ## Runs -/

/-- What holds in every state of a run that has handed out the mutexes in the given orders. -/
structure Kept (calls : ι → AppendCall) (opening : Opening) (order : KnownSink → List ι)
    (s : Recorder ι) : Prop where
  streams : ∀ k, ∃ mode, Streams calls (opening.content k) k (order k) s mode
  lifecycle : Lifecycle s

omit [DecidableEq ι] in
theorem kept_recorder (calls : ι → AppendCall) (opening : Opening) :
    Kept calls opening (fun _ => []) (opening.recorder ι) where
  streams k := by
    by_cases hstate : opening.sinkState k = .healthy
    · refine ⟨.free, ⟨hstate, rfl⟩, ?_, nofun, nofun, nodup_nil, nofun, nofun, nofun, nofun,
        .inl (Opening.terminated hstate)⟩
      exact (append_nil _).symm.trans (by simp [committed, SinkMode.torn]; rfl)
    · refine ⟨.invalid, ⟨hstate, rfl⟩, ?_, nofun, nofun, nodup_nil, nofun, nofun, nofun,
        by rintro _ ⟨⟩, .inr ⟨rfl, rfl⟩⟩
      exact (append_nil _).symm.trans (by simp [committed, SinkMode.torn]; rfl)
  lifecycle :=
    ⟨⟨∅, by simp [Opening.recorder, AppendProgress.isActive], rfl⟩, by rintro ⟨⟩, by rintro _ ⟨⟩⟩

variable {orders : KnownSink → List ι} {events : List (RecorderEvent ι)}

/-- **Every step keeps the streams and the lifecycle.** -/
theorem kept_step {event : RecorderEvent ι} (h : Kept calls opening orders s)
    (hstep : Step calls s event t) :
    Kept calls opening (fun k => orders k ++ lockOrder calls k [event]) t where
  streams k := by
    obtain ⟨mode, hmode⟩ := h.streams k
    exact hmode.step (hstep.sinkStep k)
  lifecycle := h.lifecycle.step hstep

omit [DecidableEq ι] in
theorem lockOrder_cons (event : RecorderEvent ι) (events : List (RecorderEvent ι)) :
    lockOrder calls k (event :: events) = lockOrder calls k [event] ++ lockOrder calls k events :=
  filterMap_append (l := [event])

/-- **Every run keeps them.** -/
theorem kept_run (h : Kept calls opening orders s) (hrun : Run (Step calls) s events t) :
    Kept calls opening (fun k => orders k ++ lockOrder calls k events) t := by
  induction hrun generalizing orders with
  | nil s => simpa [lockOrder] using h
  | cons first _ ih =>
    have hkept := ih (kept_step h first)
    simp only [append_assoc, ← lockOrder_cons] at hkept
    exact hkept

/-- A poisoned sink is left as it is, and hands out no receipt. -/
theorem poisoned_run (h : Kept calls opening orders s) (hstate : (s.sinks k).state ≠ .healthy)
    (hrun : Run (Step calls) s events t) :
    t.sinks k = s.sinks k ∧
      ∀ i, (calls i).sink = k → (t.appends i).hasReceipt = (s.appends i).hasReceipt := by
  induction hrun generalizing orders with
  | nil s => exact ⟨rfl, fun _ _ => rfl⟩
  | @cons s u t event events first _ ih =>
    have hquiet : Quiet calls k s u := by
      obtain ⟨mode, hmode⟩ := h.streams k
      have hidle : ∀ i written, (calls i).sink = k → s.appends i ≠ .writing written := by
        intro i written hi hwriting
        obtain rfl := hmode.writing_eq i written hi hwriting
        exact hstate hmode.fits.1
      generalize hnew : lockOrder calls k [event] = new
      have hsink := first.sinkStep k
      rw [hnew] at hsink
      cases hsink with
      | quiet hquiet | refused _ _ _ hquiet _ => exact hquiet
      | locked _ _ hhealthy _ => exact absurd hhealthy hstate
      | wrote hi hwriting | failed _ _ hi hwriting | committed hi hwriting =>
        exact absurd hwriting (hidle _ _ hi)
    have hrest := ih (kept_step h first) (hquiet.sink ▸ hstate)
    exact ⟨hrest.1.trans hquiet.sink, fun i hi => (hrest.2 i hi).trans (hquiet.receipt i hi)⟩

/-- After a `close` has returned, no sink changes and no append gets a receipt. -/
theorem closed_run (h : Lifecycle s) (hclosed : Closed s) (hrun : Run (Step calls) s events t) :
    (∀ k, t.sinks k = s.sinks k) ∧
      ∀ i, (t.appends i).hasReceipt = (s.appends i).hasReceipt := by
  induction hrun with
  | nil s => exact ⟨fun _ => rfl, fun _ => rfl⟩
  | @cons s u t event events first _ ih =>
    have hfirst := hclosed.step h.counted first
    have hrest := ih (h.step first) hfirst.1
    exact ⟨fun k => (hrest.1 k).trans (hfirst.2 k).sink,
      fun i => (hrest.2 i).trans ((hfirst.2 _).receipt i rfl)⟩

/-! ## What the reads see -/

/-- What stands behind the committed lines, with the line it makes if it is complete: nothing, or
the bytes of one append, which got the mutex after all that have a receipt and either failed or is
being written. -/
inductive TornLine (calls : ι → AppendCall) (s : Recorder ι) (order : List ι) :
    List UInt8 → List String → Prop
  | nothing : TornLine calls s order [] []
  | bytes {i : ι} {before after : List ι} {torn : List UInt8} {rest : List String}
      (horder : order = before ++ i :: after)
      (hafter : ∀ j ∈ after, (s.appends j).hasReceipt = false)
      (hwriter : (s.appends i).hasFailed = true ∨ ∃ written, s.appends i = .writing written)
      (hbegins : torn <+: (calls i).line)
      (hrest : rest = if torn = (calls i).line then [(calls i).json.text] else []) :
      TornLine calls s order torn rest

omit [DecidableEq ι] in
/-- A proper beginning of a line has no newline. -/
theorem newline_notMem_of_prefix {torn : List UInt8} (h : torn <+: (calls i).line)
    (hshort : torn ≠ (calls i).line) : newline ∉ torn := by
  have hline : (calls i).line = utf8 (calls i).json.text ++ [newline] := rfl
  rw [hline] at h hshort
  rcases prefix_concat_iff.mp h with hwhole | htext
  · exact absurd hwhole hshort
  · intro hmem
    exact (calls i).json.isRecordLine.noNewline (newline_mem_utf8.mp (htext.subset hmem))

omit [DecidableEq ι] in
/-- What stands behind the committed lines is a complete line, or has no newline. -/
theorem TornLine.tail {torn : List UInt8} {rest : List String}
    (h : TornLine calls s order torn rest) :
    (∀ line ∈ rest, IsRecordLine line) ∧
      ∃ tail, newline ∉ tail ∧ torn = rest.flatMap lineBytes ++ tail := by
  cases h with
  | nothing => exact ⟨nofun, [], not_mem_nil, rfl⟩
  | @bytes i _ _ _ _ _ _ _ hbegins hrest =>
    split_ifs at hrest with hwhole
    · subst hrest
      refine ⟨fun line hline => ?_, [], not_mem_nil, ?_⟩
      · rw [mem_singleton.mp hline]
        exact (calls i).json.isRecordLine
      · rw [hwhole, flatMap_singleton, append_nil]
        rfl
    · subst hrest
      exact ⟨nofun, torn, newline_notMem_of_prefix hbegins hwhole, rfl⟩

section

variable (h : Streams calls opened k order s mode)

include h

section

omit [DecidableEq ι]

theorem Streams.tornLine : ∃ rest, TornLine calls s order (mode.torn calls) rest := by
  have hfits := h.fits
  cases mode with
  | free | invalid => exact ⟨[], .nothing⟩
  | writing i written =>
    obtain ⟨before, after, horder, hafter⟩ := h.writer_last i rfl
    exact ⟨_, .bytes horder hafter (.inr ⟨written, hfits.2.2⟩) (List.take_prefix ..) rfl⟩
  | failed i written =>
    obtain ⟨before, after, horder, hafter⟩ := h.writer_last i rfl
    exact ⟨_, .bytes horder hafter (.inl hfits.2.2) (List.take_prefix ..) rfl⟩

/-- The diagnostic read returns the lines of the stream as it was opened, the lines of the receipts
and what follows them if it is complete. -/
theorem Streams.diagnostic {stream : String} {maxBytes : Nat} {lines rest : List String}
    (htorn : TornLine calls s order (mode.torn calls) rest)
    (hopened : readFramedLines stream maxBytes .ignoreUncommittedTail opened = .ok lines)
    (hcap : (s.sinks k).file.length ≤ maxBytes) :
    readFramedLines stream maxBytes .ignoreUncommittedTail (s.sinks k).file =
      .ok (lines ++ (s.committed order).map (fun i => (calls i).json.text) ++ rest) := by
  obtain ⟨-, hlines, tail, htail, hcontent⟩ := readFramedLines_diagnostic.mp hopened
  obtain ⟨hrest, torn, hnewline, htornEq⟩ := htorn.tail
  have hcommitted : ((s.committed order).map fun i => (calls i).json.text).flatMap lineBytes =
      (s.committed order).flatMap fun i => (calls i).line := by
    rw [flatMap_map]
    rfl
  rw [readFramedLines_diagnostic]
  refine ⟨hcap, fun line hline => ?_, ?_⟩
  · rw [append_assoc, mem_append, mem_append] at hline
    rcases hline with hline | hline | hline
    · exact hlines line hline
    · obtain ⟨i, -, rfl⟩ := mem_map.mp hline
      exact (calls i).json.isRecordLine
    · exact hrest line hline
  · rcases h.usable with hterminated | ⟨rfl, hnone⟩
    · have hempty : tail = [] :=
        tail_eq_nil (isTerminated_lines lines) htail (hcontent ▸ hterminated)
      refine ⟨torn, hnewline, ?_⟩
      rw [h.file, hcontent, hempty, htornEq, flatMap_append, flatMap_append, hcommitted]
      simp only [append_nil, append_assoc]
    -- The stream was unusable when it was opened, so nothing was appended to its tail.
    · refine ⟨tail, htail, ?_⟩
      have hnil : rest = [] ∧ torn = [] := by
        have hsplit : ([] : List UInt8) = rest.flatMap lineBytes ++ torn := htornEq
        obtain ⟨hrest', htorn'⟩ := append_eq_nil_iff.mp hsplit.symm
        refine ⟨?_, htorn'⟩
        cases rest with
        | nil => rfl
        | cons line others => simp [lineBytes] at hrest'
      rw [h.file, hnone, hnil.1, hcontent]
      simp [SinkMode.torn]

theorem Streams.poisoned (hi : (calls i).sink = k)
    (hfailed : (s.appends i).hasFailed = true) : (s.sinks k).state ≠ .healthy := by
  have hwriter := h.failed_eq i hi hfailed
  have hfits := h.fits
  cases mode with
  | free => cases hwriter
  | writing j written =>
    obtain rfl := Option.some.inj hwriter
    rw [hfits.2.2] at hfailed
    cases hfailed
  | failed j written => exact hfits.1
  | invalid => cases hwriter

end

end

/-- **A stream holds the records that have a receipt.** In every state of every run:

* a stream is what it was when it was opened, followed by the lines of the appends that have a
  receipt, in the order in which they got the mutex of the sink, each of them once, followed by at
  most some bytes of the one append that failed or is being written;
* at most one append of a sink fails in its commit, and from then on the stream is left as it is and
  no append of the sink gets a receipt;
* from the return of a `close` on, no stream changes and no append gets a receipt;
* a strict read rejects a stream that does not end with a newline, and a diagnostic read that admits
  its size returns the complete lines: those of the stream as it was opened, those of the receipts,
  and the line of the failed append if all of it was written. -/
theorem stream_is_its_receipts (hrun : Run (Step calls) (opening.recorder ι) events s)
    (k : KnownSink) :
    let order := lockOrder calls k events
    let file := (s.sinks k).file
    (∃ torn rest,
      file = opening.content k ++ (s.committed order).flatMap (fun i => (calls i).line) ++ torn ∧
      TornLine calls s order torn rest ∧
      ∀ stream maxBytes lines,
        readFramedLines stream maxBytes .ignoreUncommittedTail (opening.content k) = .ok lines →
        file.length ≤ maxBytes →
        readFramedLines stream maxBytes .ignoreUncommittedTail file =
          .ok (lines ++ (s.committed order).map (fun i => (calls i).json.text) ++ rest)) ∧
    order.Nodup ∧
    (∀ i, (calls i).sink = k → (s.appends i).hasReceipt = true → i ∈ order) ∧
    (∀ i j, (calls i).sink = k → (calls j).sink = k → (s.appends i).hasFailed = true →
      (s.appends j).hasFailed = true → i = j) ∧
    (∀ i, (calls i).sink = k → (s.appends i).hasFailed = true →
      ∀ later t, Run (Step calls) s later t → (t.sinks k).file = file ∧
        ∀ j, (calls j).sink = k → (t.appends j).hasReceipt = (s.appends j).hasReceipt) ∧
    (∀ j, s.closes j = .returned →
      ∀ later t, Run (Step calls) s later t → (t.sinks k).file = file ∧
        ∀ i, (t.appends i).hasReceipt = (s.appends i).hasReceipt) ∧
    ∀ stream maxBytes lines, ¬ IsTerminated file →
      readFramedLines stream maxBytes .strict file ≠ .ok lines := by
  have hkept := kept_run (kept_recorder calls opening) hrun
  obtain ⟨mode, hstreams⟩ := hkept.streams k
  rw [nil_append] at hstreams
  refine ⟨?_, hstreams.nodup, hstreams.receipt_mem, ?_, ?_, ?_, ?_⟩
  · obtain ⟨rest, htorn⟩ := hstreams.tornLine
    exact ⟨mode.torn calls, rest, hstreams.file, htorn, fun _ _ _ hopened hcap =>
      hstreams.diagnostic htorn hopened hcap⟩
  · intro i j hi hj hifailed hjfailed
    have hwriter := hstreams.failed_eq i hi hifailed
    rw [hstreams.failed_eq j hj hjfailed] at hwriter
    exact (Option.some.inj hwriter).symm
  · intro i hi hfailed later t hlater
    have hpoisoned := poisoned_run hkept (hstreams.poisoned hi hfailed) hlater
    exact ⟨congrArg DurableSink.file hpoisoned.1, hpoisoned.2⟩
  · intro j hj later t hlater
    have hclosed := closed_run hkept.lifecycle (hkept.lifecycle.returned j hj) hlater
    exact ⟨congrArg DurableSink.file (hclosed.1 k), hclosed.2⟩
  · intro stream maxBytes lines hunterminated hok
    obtain ⟨-, hfile, -⟩ := readFramedLines_strict.mp hok
    exact hunterminated (hfile ▸ isTerminated_lines lines)

/-- **A closed stream reads back.** When a `close` has returned and no append of the sink failed in
its commit, a strict read returns the lines of the stream as it was opened and those of the
receipts, in the order of the mutex. -/
theorem closed_stream_reads_back (hrun : Run (Step calls) (opening.recorder ι) events s) {j : ι}
    (hclosed : s.closes j = .returned)
    (hcommits : ∀ i, (calls i).sink = k → (s.appends i).hasFailed = false)
    {stream : String} {maxBytes : Nat} {lines : List String}
    (hopened : readFramedLines stream maxBytes .strict (opening.content k) = .ok lines)
    (hcap : (s.sinks k).file.length ≤ maxBytes) :
    readFramedLines stream maxBytes .strict (s.sinks k).file =
      .ok (lines ++ (s.committed (lockOrder calls k events)).map fun i => (calls i).json.text) := by
  have hkept := kept_run (kept_recorder calls opening) hrun
  obtain ⟨mode, hstreams⟩ := hkept.streams k
  rw [nil_append] at hstreams
  have htorn : mode.torn calls = [] := by
    have hfits := hstreams.fits
    cases mode with
    | free | invalid => rfl
    | writing i written =>
      have hinactive :=
        hkept.lifecycle.counted.inactive (hkept.lifecycle.returned j hclosed).drained i
      rw [hfits.2.2] at hinactive
      cases hinactive
    | failed i written =>
      obtain ⟨_, _, horder, -⟩ := hstreams.writer_last i rfl
      have hfailed := hcommits i (hstreams.sink_order i (by simp [horder]))
      rw [hfits.2.2] at hfailed
      cases hfailed
  obtain ⟨-, hcontent, hlines⟩ := readFramedLines_strict.mp hopened
  refine readFramedLines_strict.mpr ⟨hcap, ?_, forall_mem_append.mpr ⟨hlines, fun line hline => ?_⟩⟩
  · rw [hstreams.file, htorn, append_nil, hcontent, flatMap_append, flatMap_map]
    rfl
  · obtain ⟨i, -, rfl⟩ := mem_map.mp hline
    exact (calls i).json.isRecordLine

end Steps

/-! A write that fails after its first byte, on a machine stream with one record. -/

namespace TornWrite

def object : JsonText := ⟨"\x7b\x7d", by decide⟩

/-- The two appends. -/
def appends (_ : Bool) : AppendCall := ⟨.entryOrderIntent, object⟩

/-- Two empty streams. -/
def fresh : Opening where
  content _ := []
  observationPoison := none
  maxRecordBytes := 100
  machine_terminated := .inl rfl
  observation_terminated _ := .inl rfl
  startup := nofun

/-- The first append has its receipt. -/
def committed : Recorder Bool :=
  ((((fresh.recorder Bool).beginOperation appends false).lockSink appends false).writeBytes appends
    false 0 3).commit appends false

/-- The second one fails. -/
def torn : Recorder Bool :=
  (((committed.beginOperation appends true).lockSink appends true).writeBytes appends
    true 0 1).failCommit appends true .write "no space left on device"

def events : List (RecorderEvent Bool) :=
  [.begin false, .lock false, .write false 3, .syncData false, .begin true, .lock true,
    .write true 1, .writeError true "no space left on device"]

theorem run : Run (Step appends) (fresh.recorder Bool) events torn :=
  .cons (.begin rfl) <| .cons (.lock rfl rfl) <| .cons (.write rfl (by decide) (by decide)) <|
    .cons (.syncData rfl) <| .cons (.begin rfl) <| .cons (.lock rfl rfl) <|
    .cons (.write rfl (by decide) (by decide)) <|
    .cons (.writeError "no space left on device" rfl (by decide)) <| .nil torn

/-- The stream holds the first record and a torn byte; the diagnostic read returns the first record
and the strict one fails. -/
theorem torn_byte_is_ignored : (torn.sinks .machine).file = [123, 125, 10, 123] ∧
      readFramedLines "machine evidence" 100 .ignoreUncommittedTail (torn.sinks .machine).file =
        .ok ["\x7b\x7d"] ∧
      ∀ lines, readFramedLines "machine evidence" 100 .strict (torn.sinks .machine).file ≠
        .ok lines := by
  have hfile : (torn.sinks .machine).file = [123, 125, 10, 123] := by decide +kernel
  have hunterminated : ¬ IsTerminated (torn.sinks .machine).file := by
    decide
  obtain ⟨⟨torn', rest, hstream, htorn, hread⟩, -, -, -, -, -, hstrict⟩ :=
    stream_is_its_receipts run .machine
  have hreceipts : torn.committed (lockOrder appends .machine events) = [false] := by decide +kernel
  have hbyte : torn' = [123] := by
    rw [hreceipts, hfile] at hstream
    have hsplit : [123, 125, 10] ++ torn' = [123, 125, 10] ++ [123] := hstream.symm
    exact append_cancel_left hsplit
  have hrest : rest = [] := by
    cases htorn with
    | nothing => rfl
    | @bytes i _ _ _ _ _ _ _ _ hrest =>
      rw [hrest, hbyte]
      exact if_neg (by cases i <;> decide +kernel)
  have hlines := hread "machine evidence" 100 [] rfl (by rw [hfile]; decide)
  rw [hreceipts, hrest] at hlines
  exact ⟨hfile, hlines, fun lines => hstrict _ _ lines hunterminated⟩

/-- The first append returns and the recorder is closed. -/
def closed : Recorder Bool :=
  (committed.finishOperation false (.ok (appends false).receipt)).startClose true

theorem first_record_reads_back :
    readFramedLines "machine evidence" 100 .strict (closed.sinks .machine).file =
      .ok ["\x7b\x7d"] := by
  have hrun : Run (Step appends) (fresh.recorder Bool) [.begin false, .lock false, .write false 3,
      .syncData false, .finish false, .close true] closed :=
    .cons (.begin rfl) <| .cons (.lock rfl rfl) <| .cons (.write rfl (by decide) (by decide)) <|
      .cons (.syncData rfl) <| .cons (.finish rfl) <| .cons (.close rfl) <| .nil closed
  have hreads := closed_stream_reads_back (k := .machine) (j := true) hrun rfl
    (by decide +kernel) (show readFramedLines "machine evidence" 100 .strict [] = .ok [] from rfl)
    (by decide +kernel)
  exact hreads

end TornWrite

end Recorder

end BoltV3.Evidence
