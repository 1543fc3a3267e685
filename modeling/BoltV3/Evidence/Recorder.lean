import BoltV3.Evidence.Reader
import BoltV3.Lib.Machine
import Mathlib.Logic.Function.Basic

/-!
# The evidence recorder

`DecisionEvidenceRecorder` of `bolt_v3_current_evidence/record.rs`: two append-only files, each
behind a mutex, and a lifecycle behind a third one. Any number of `append` calls and of `close`
calls run at the same time; an event is one of them moving past a point where another may come in
between.

* An append waits for the mutex of its sink, writes with `write_all`, a loop of partial writes, and
  syncs. The write may fail at any byte and the sync after the last one; the sink is then poisoned
  under the mutex.
* The record of an append is the JSON of its fact and a newline (`encode_line`). What `serde_json`
  writes for a value is one line of text: it escapes line breaks in strings and writes no blanks
  around the value.
* The mutexes are never poisoned themselves: no thread that holds one panics. The counter of the
  active operations is far from its bound. The publication of health transitions and the episodes
  of observation failures read the outcomes and change nothing here.
-/

namespace BoltV3.Evidence

open Lib

/-! ## The contract

The table of `generated_contract.rs` that says where the record of a purpose is appended. Purposes,
identities and facts are in bijection in the current contract, so a purpose stands for its identity
and for its fact. The identities and the consumers of the facts are left out. -/

inductive KnownPurpose
  | blockedStrategyInputObservation | submitLinkedStrategyInputSnapshot | entryOrderIntent
  | riskReducingExitOrderIntent | admittedEntryAdmission | rejectedEntryAdmission
  | riskReducingExitAdmission | forcedReductionAdmission | basketAdmissionGranted
  | basketAdmissionRejected | capitalAdmissionRebuild | submitReservationFill | entrySkipObservation
  | exitIntentDecision | exitPreparedOrder | exitHoldDecision | exitEvaluation | lossGovernorHalt
  | orderReject | orderLifecycle | requoteThrottleObservation | settlement | terminalSettlement
  | providerCollateralAllowanceCaptureFailure

inductive KnownSink
  | machine | observation
deriving DecidableEq

def sinkForPurpose : KnownPurpose → KnownSink
  | .blockedStrategyInputObservation => .observation
  | .entrySkipObservation => .observation
  | .exitHoldDecision => .observation
  | .exitEvaluation => .observation
  | .requoteThrottleObservation => .observation
  | _ => .machine

/-! ## Records and calls -/

inductive CommitPhase
  | write | sync
deriving DecidableEq

inductive PoisonCause
  | commitIndeterminate (phase : CommitPhase) (cause : String)
  | startupContentInvalid (cause : String)
deriving DecidableEq

inductive RecordFailure
  | rejected (message : String)
  | commitIndeterminate (phase : CommitPhase) (cause : String)
  | sinkPoisoned (firstCause : PoisonCause)
  | recorderClosing | recorderClosed

structure AppendReceipt where
  purpose : KnownPurpose
  sink : KnownSink
  bytes : Nat

/-! ## Records -/

/-- The check of `EncodedEvidenceRecord::try_new`: one newline, at the end. -/
def isJsonlRecord (line : List UInt8) : Bool :=
  line.getLast? == some newline && !line.dropLast.contains newline

structure EncodedEvidenceRecord where
  purpose : KnownPurpose
  line : List UInt8
  jsonl : isJsonlRecord line = true

variable (purpose : KnownPurpose)

def EncodedEvidenceRecord.tryNew (line : List UInt8) : Except RecordFailure EncodedEvidenceRecord :=
  if h : isJsonlRecord line = true then .ok ⟨purpose, line, h⟩
  else .error (.rejected "encoded evidence must be exactly one newline-terminated JSONL record")

/-- What `serde_json` writes for the value of a record. -/
structure JsonText where
  text : String
  isRecordLine : IsRecordLine text

variable (json : JsonText)

def encodeLine : Except RecordFailure EncodedEvidenceRecord :=
  EncodedEvidenceRecord.tryNew purpose (utf8 json.text ++ [newline])

theorem isJsonlRecord_lineBytes : isJsonlRecord (lineBytes json.text) = true := by
  have hnone : newline ∉ utf8 json.text := fun h =>
    json.isRecordLine.noNewline (newline_mem_utf8.mp h)
  simp [isJsonlRecord, lineBytes, hnone]

/-- A record of the codec is accepted, and is its text as a line. -/
theorem encodeLine_eq : encodeLine purpose json =
      .ok ⟨purpose, lineBytes json.text, isJsonlRecord_lineBytes json⟩ :=
  dif_pos (isJsonlRecord_lineBytes json)

/-- One call of `append`, with what it records. -/
structure AppendCall where
  purpose : KnownPurpose
  json : JsonText

namespace AppendCall

variable (call : AppendCall)

/-- The record that is appended. -/
def record : EncodedEvidenceRecord :=
  ⟨call.purpose, lineBytes call.json.text, isJsonlRecord_lineBytes call.json⟩

def line (call : AppendCall) : List UInt8 := call.record.line

def sink : KnownSink := sinkForPurpose call.record.purpose

def receipt : AppendReceipt :=
  ⟨call.record.purpose, call.sink, call.line.length⟩

end AppendCall

/-! ## The recorder -/

inductive DurableSinkState
  | healthy
  | poisoned (cause : PoisonCause)
deriving DecidableEq

/-- `DurableSink`: the bytes of the file, and whether they may be appended to. -/
structure DurableSink where
  file : List UInt8
  state : DurableSinkState

inductive RecorderLifecyclePhase
  | opened | closing | closed
deriving DecidableEq

structure RecorderLifecycleState where
  phase : RecorderLifecyclePhase
  activeOperations : Nat

/-- Where a call of `append` stands. -/
inductive AppendProgress
  /-- Not called yet. -/
  | idle
  /-- The operation has begun; the call waits for the mutex of its sink. -/
  | admitted
  /-- The call holds the mutex of its sink and has written some bytes. -/
  | writing (written : Nat)
  /-- The mutex is dropped and the result is known; the operation is still active. -/
  | ended (result : Except RecordFailure AppendReceipt)
  | returned (result : Except RecordFailure AppendReceipt)

/-- Where a call of `close` stands. -/
inductive CloseProgress
  | idle
  /-- The call waits on `lifecycle_drained`. -/
  | draining | returned

/-- `DecisionEvidenceRecorder`, with the calls that use it. -/
structure Recorder (ι : Type) where
  sinks : KnownSink → DurableSink
  maxRecordBytes : Nat
  lifecycle : RecorderLifecycleState
  /-- Who holds the mutex of a sink. -/
  locks : KnownSink → Option ι
  appends : ι → AppendProgress
  closes : ι → CloseProgress

/-- What `open` hands to the recorder: the streams as they are, the observation stream poisoned if
it did not validate. A stream that is appended to was read strictly, so it is terminated. -/
structure Opening where
  content : KnownSink → List UInt8
  observationPoison : Option PoisonCause
  maxRecordBytes : Nat
  machine_terminated : IsTerminated (content .machine)
  observation_terminated : observationPoison = none → IsTerminated (content .observation)
  startup : ∀ cause, observationPoison = some cause →
    ∃ message, cause = .startupContentInvalid message

namespace Opening

/-- The state in which a sink is opened. -/
def sinkState (opening : Opening) : KnownSink → DurableSinkState
  | .machine => .healthy
  | .observation =>
    match opening.observationPoison with
    | none => .healthy
    | some cause => .poisoned cause

/-- `from_files`. -/
def recorder (ι : Type) (opening : Opening) : Recorder ι where
  sinks sink := ⟨opening.content sink, opening.sinkState sink⟩
  maxRecordBytes := opening.maxRecordBytes
  lifecycle := ⟨.opened, 0⟩
  locks _ := none
  appends _ := .idle
  closes _ := .idle

theorem terminated {opening : Opening} {sink : KnownSink}
    (h : opening.sinkState sink = .healthy) : IsTerminated (opening.content sink) := by
  cases sink with
  | machine => exact opening.machine_terminated
  | observation =>
    refine opening.observation_terminated ?_
    unfold sinkState at h
    cases hpoison : opening.observationPoison with
    | none => rfl
    | some cause =>
      rw [hpoison] at h
      cases h

end Opening

/-! ## Its steps -/

inductive RecorderEvent (ι : Type)
  /-- `begin_operation` and the check of the record's size. -/
  | begin (i : ι)
  /-- The call gets the mutex of its sink. -/
  | lock (i : ι)
  /-- A partial write of some bytes. -/
  | write (i : ι) (bytes : Nat)
  | writeError (i : ι) (cause : String)
  | syncData (i : ι)
  | syncError (i : ι) (cause : String)
  /-- The operation is dropped and the call returns. -/
  | finish (i : ι)
  | close (j : ι)
  /-- A waiting `close` finds no active operation. -/
  | drained (j : ι)

namespace Recorder

variable {ι : Type} [DecidableEq ι] (calls : ι → AppendCall) (s : Recorder ι) (i : ι)

/-- The progress of a call. -/
def setAppend (progress : AppendProgress) : Recorder ι :=
  { s with appends := Function.update s.appends i progress }

/-- The lifecycle with one more operation. -/
def activate : Recorder ι :=
  { s with lifecycle := { s.lifecycle with activeOperations := s.lifecycle.activeOperations + 1 } }

/-- `begin_operation`, and `append` up to the mutex of the sink. -/
def beginOperation : Recorder ι :=
  match s.lifecycle.phase with
  | .opened =>
    let bytes := (calls i).line.length
    if bytes > s.maxRecordBytes then
      s.activate.setAppend i (.ended (.error (.rejected
        ("encoded evidence record exceeds configured byte cap: " ++ toString bytes ++ " > " ++
          toString s.maxRecordBytes))))
    else s.activate.setAppend i .admitted
  | .closing => s.setAppend i (.returned (.error .recorderClosing))
  | .closed => s.setAppend i (.returned (.error .recorderClosed))

def setLock (k : KnownSink) (holder : Option ι) : Recorder ι :=
  { s with locks := Function.update s.locks k holder }

def setSink (k : KnownSink) (sink : DurableSink) : Recorder ι :=
  { s with sinks := Function.update s.sinks k sink }

/-- The mutex is free: `DurableSink::append` refuses a poisoned sink and otherwise starts to
write. -/
def lockSink : Recorder ι :=
  match (s.sinks (calls i).sink).state with
  | .poisoned firstCause => s.setAppend i (.ended (.error (.sinkPoisoned firstCause)))
  | .healthy => (s.setLock (calls i).sink (some i)).setAppend i (.writing 0)

/-- One `write` of the loop in `write_all`. -/
def writeBytes (written bytes : Nat) : Recorder ι :=
  let k := (calls i).sink
  let sink := s.sinks k
  let file := sink.file ++ ((calls i).line.drop written).take bytes
  (s.setSink k { sink with file := file }).setAppend i (.writing (written + bytes))

/-- A failed write or sync: the sink is poisoned and its mutex dropped. -/
def failCommit (phase : CommitPhase) (cause : String) : Recorder ι :=
  let k := (calls i).sink
  let sink := s.sinks k
  ((s.setSink k { sink with state := .poisoned (.commitIndeterminate phase cause) }).setLock k
    none).setAppend i (.ended (.error (.commitIndeterminate phase cause)))

/-- The sync has succeeded: the mutex is dropped and the receipt made. -/
def commit : Recorder ι :=
  (s.setLock (calls i).sink none).setAppend i (.ended (.ok (calls i).receipt))

/-- The drop of `ActiveRecorderOperation`. -/
def finishOperation (result : Except RecordFailure AppendReceipt) : Recorder ι :=
  { s.setAppend i (.returned result) with
    lifecycle := { s.lifecycle with activeOperations := s.lifecycle.activeOperations - 1 } }

def setClose (j : ι) (phase : RecorderLifecyclePhase) (progress : CloseProgress) : Recorder ι :=
  { s with
    lifecycle := { s.lifecycle with phase := phase }
    closes := Function.update s.closes j progress }

/-- `close`, up to its first wait. -/
def startClose (j : ι) : Recorder ι :=
  if s.lifecycle.phase = .closed then s.setClose j .closed .returned
  else if s.lifecycle.activeOperations = 0 then s.setClose j .closed .returned
  else s.setClose j .closing .draining

inductive Step : Recorder ι → RecorderEvent ι → Recorder ι → Prop
  | begin {s : Recorder ι} {i : ι} (h : s.appends i = .idle) :
      Step s (.begin i) (s.beginOperation calls i)
  | lock {s : Recorder ι} {i : ι} (h : s.appends i = .admitted)
      (hfree : s.locks (calls i).sink = none) : Step s (.lock i) (s.lockSink calls i)
  | write {s : Recorder ι} {i : ι} {written bytes : Nat} (h : s.appends i = .writing written)
      (hpositive : 0 < bytes) (hbytes : written + bytes ≤ (calls i).line.length) :
      Step s (.write i bytes) (s.writeBytes calls i written bytes)
  | writeError {s : Recorder ι} {i : ι} {written : Nat} (cause : String)
      (h : s.appends i = .writing written) (hwritten : written < (calls i).line.length) :
      Step s (.writeError i cause) (s.failCommit calls i .write cause)
  | syncData {s : Recorder ι} {i : ι} (h : s.appends i = .writing (calls i).line.length) :
      Step s (.syncData i) (s.commit calls i)
  | syncError {s : Recorder ι} {i : ι} (cause : String)
      (h : s.appends i = .writing (calls i).line.length) :
      Step s (.syncError i cause) (s.failCommit calls i .sync cause)
  | finish {s : Recorder ι} {i : ι} {result : Except RecordFailure AppendReceipt}
      (h : s.appends i = .ended result) : Step s (.finish i) (s.finishOperation i result)
  | close {s : Recorder ι} {j : ι} (h : s.closes j = .idle) : Step s (.close j) (s.startClose j)
  | drained {s : Recorder ι} {j : ι} (h : s.closes j = .draining)
      (hdrained : s.lifecycle.activeOperations = 0) :
      Step s (.drained j) (s.setClose j .closed .returned)

end Recorder

end BoltV3.Evidence
