import BoltV3.Evidence.Recorder
import Mathlib.Data.Finset.Card
import Mathlib.Data.List.Nodup

/-!
# The streams of the recorder, step by step

What a step of the recorder of `Evidence.Recorder` does to the file of a sink and to the lifecycle.

* `lockOrder` reads off a run in which order the appends of a sink got its mutex.
* A sink is in a `SinkMode`: free, being written to, failed, or unusable since it was opened. The
  mode says which bytes stand behind the committed lines.
-/

namespace BoltV3.Evidence

open Lib Function List

namespace AppendProgress

/-- The append has its receipt. -/
def hasReceipt : AppendProgress → Bool
  | .ended (.ok _) => true
  | .returned (.ok _) => true
  | _ => false

/-- The append failed while its record was being written or synced. -/
def hasFailed : AppendProgress → Bool
  | .ended (.error (.commitIndeterminate _ _)) => true
  | .returned (.error (.commitIndeterminate _ _)) => true
  | _ => false

/-- The append has begun and not returned. -/
def isActive : AppendProgress → Bool
  | .idle => false
  | .returned _ => false
  | _ => true

/-- The append has had the mutex of its sink. -/
def isLocked : AppendProgress → Bool
  | .idle => false
  | .admitted => false
  | _ => true

end AppendProgress

/-- What a sink is doing. -/
inductive SinkMode (ι : Type)
  | free
  | writing (i : ι) (written : Nat)
  | failed (i : ι) (written : Nat)
  | invalid

variable {ι : Type} {calls : ι → AppendCall}

/-- The appends of a sink in the order in which they got its mutex. -/
def lockOrder (calls : ι → AppendCall) (k : KnownSink) (events : List (RecorderEvent ι)) : List ι :=
  events.filterMap fun
    | .lock i => if (calls i).sink = k then some i else none
    | _ => none

namespace SinkMode

/-- The bytes behind the committed lines. -/
def torn (calls : ι → AppendCall) : SinkMode ι → List UInt8
  | .free => []
  | .writing i written => (calls i).line.take written
  | .failed i written => (calls i).line.take written
  | .invalid => []

/-- The append whose bytes they are. -/
def writer : SinkMode ι → Option ι
  | .free => none
  | .writing i _ => some i
  | .failed i _ => some i
  | .invalid => none

/-- What the mode says of the recorder. -/
def Fits (s : Recorder ι) (k : KnownSink) : SinkMode ι → Prop
  | .free => (s.sinks k).state = .healthy ∧ s.locks k = none
  | .writing i written =>
    (s.sinks k).state = .healthy ∧ s.locks k = some i ∧ s.appends i = .writing written
  | .failed i _ =>
    (s.sinks k).state ≠ .healthy ∧ s.locks k = none ∧ (s.appends i).hasFailed = true
  | .invalid => (s.sinks k).state ≠ .healthy ∧ s.locks k = none

end SinkMode

namespace Recorder

/-- The appends with a receipt, of a list. -/
def committed (s : Recorder ι) (order : List ι) : List ι :=
  order.filter fun i => (s.appends i).hasReceipt

/-- The file of a sink and the appends that have had its mutex, in a mode. -/
structure Streams (calls : ι → AppendCall) (opened : List UInt8) (k : KnownSink) (order : List ι)
    (s : Recorder ι) (mode : SinkMode ι) : Prop where
  fits : mode.Fits s k
  file : (s.sinks k).file =
    opened ++ (s.committed order).flatMap (fun i => (calls i).line) ++ mode.torn calls
  sink_order : ∀ i ∈ order, (calls i).sink = k
  locked : ∀ i ∈ order, (s.appends i).isLocked = true
  nodup : order.Nodup
  receipt_mem : ∀ i, (calls i).sink = k → (s.appends i).hasReceipt = true → i ∈ order
  failed_eq : ∀ i, (calls i).sink = k → (s.appends i).hasFailed = true → mode.writer = some i
  writing_eq : ∀ i written, (calls i).sink = k → s.appends i = .writing written →
    mode = .writing i written
  writer_last : ∀ i, mode.writer = some i →
    ∃ before after, order = before ++ i :: after ∧ ∀ j ∈ after, (s.appends j).hasReceipt = false
  usable : IsTerminated opened ∨ mode = .invalid ∧ s.committed order = []

/-! ## What a step does to a sink -/

/-- A step that a sink does not notice. -/
structure Quiet (calls : ι → AppendCall) (k : KnownSink) (s t : Recorder ι) : Prop where
  sink : t.sinks k = s.sinks k
  lock : t.locks k = s.locks k
  receipt : ∀ i, (calls i).sink = k → (t.appends i).hasReceipt = (s.appends i).hasReceipt
  failed : ∀ i, (calls i).sink = k → (t.appends i).hasFailed = (s.appends i).hasFailed
  locked : ∀ i, (calls i).sink = k → (s.appends i).isLocked = true → (t.appends i).isLocked = true
  writing : ∀ i written, (calls i).sink = k →
    (t.appends i = .writing written ↔ s.appends i = .writing written)

variable {s t : Recorder ι} {k : KnownSink} {i : ι}

theorem Quiet.of_eq (hsink : t.sinks = s.sinks) (hlock : t.locks = s.locks)
    (happends : t.appends = s.appends) : Quiet calls k s t :=
  { sink := congrFun hsink k, lock := congrFun hlock k
    receipt := fun i _ => by rw [happends]
    failed := fun i _ => by rw [happends]
    locked := fun i _ h => by rwa [happends]
    writing := fun i written _ => by rw [happends] }

/-! ## The file of a sink -/

section Streams

variable {opened : List UInt8} {order new : List ι} {mode : SinkMode ι}

theorem committed_append (s : Recorder ι) (order new : List ι) :
    s.committed (order ++ new) = s.committed order ++ s.committed new :=
  filter_append ..

/-- Receipts are all that `committed` reads. -/
theorem committed_congr (h : ∀ i ∈ order, (t.appends i).hasReceipt = (s.appends i).hasReceipt) :
    t.committed order = s.committed order :=
  filter_congr fun i hi => h i hi

theorem committed_eq_nil (h : ∀ i ∈ order, (s.appends i).hasReceipt = false) :
    s.committed order = [] :=
  filter_eq_nil_iff.mpr fun i hi => by simp [h i hi]

theorem committed_concat (hreceipt : (s.appends i).hasReceipt = false) :
    s.committed (order ++ [i]) = s.committed order := by
  have hnone : s.committed [i] = [] := committed_eq_nil (by simpa using hreceipt)
  rw [committed_append, hnone, append_nil]

namespace Streams

section

variable (h : Streams calls opened k order s mode)

include h

/-- A sink that is in use was opened with a terminated stream. -/
theorem terminated (hmode : mode ≠ .invalid) : IsTerminated opened :=
  h.usable.resolve_right fun hinvalid => hmode hinvalid.1

theorem of_quiet (hquiet : Quiet calls k s t) : Streams calls opened k order t mode where
  fits := by
    have hfits := h.fits
    have hsink : ∀ i, mode.writer = some i → (calls i).sink = k := by
      intro i hi
      obtain ⟨before, after, horder, -⟩ := h.writer_last i hi
      exact h.sink_order i (horder ▸ mem_append_right before mem_cons_self)
    cases mode with
    | free | invalid => exact ⟨hquiet.sink ▸ hfits.1, hquiet.lock ▸ hfits.2⟩
    | writing i written =>
      exact ⟨hquiet.sink ▸ hfits.1, hquiet.lock ▸ hfits.2.1,
        (hquiet.writing i written (hsink i rfl)).mpr hfits.2.2⟩
    | failed i written =>
      exact ⟨hquiet.sink ▸ hfits.1, hquiet.lock ▸ hfits.2.1,
        (hquiet.failed i (hsink i rfl)).trans hfits.2.2⟩
  file := by
    rw [hquiet.sink, committed_congr fun i hi => hquiet.receipt i (h.sink_order i hi)]
    exact h.file
  sink_order := h.sink_order
  locked i hi := hquiet.locked i (h.sink_order i hi) (h.locked i hi)
  nodup := h.nodup
  receipt_mem i hi hreceipt := h.receipt_mem i hi ((hquiet.receipt i hi).symm.trans hreceipt)
  failed_eq i hi hfailed := h.failed_eq i hi ((hquiet.failed i hi).symm.trans hfailed)
  writing_eq i written hi hwriting :=
    h.writing_eq i written hi ((hquiet.writing i written hi).mp hwriting)
  writer_last i hi := by
    obtain ⟨before, after, horder, hafter⟩ := h.writer_last i hi
    refine ⟨before, after, horder, fun j hj => ?_⟩
    have hj' : j ∈ order := by
      rw [horder]
      exact mem_append_right before (mem_cons_of_mem i hj)
    rw [hquiet.receipt j (h.sink_order j hj')]
    exact hafter j hj
  usable := by
    rw [committed_congr fun i hi => hquiet.receipt i (h.sink_order i hi)]
    exact h.usable

/-- An append that is not locked yet has not had the mutex. -/
theorem notMem_of_admitted (hadmitted : s.appends i = .admitted) : i ∉ order := by
  intro hi
  have hlocked := h.locked i hi
  rw [hadmitted] at hlocked
  cases hlocked

/-- A refused append gets the mutex after all others. -/
theorem concat (hi : (calls i).sink = k)
    (hnot : i ∉ order) (hlocked : (s.appends i).isLocked = true)
    (hreceipt : (s.appends i).hasReceipt = false) :
    Streams calls opened k (order ++ [i]) s mode where
  fits := h.fits
  file := by
    rw [committed_concat hreceipt]
    exact h.file
  sink_order := forall_mem_append.mpr ⟨h.sink_order, forall_mem_singleton.mpr hi⟩
  locked := forall_mem_append.mpr ⟨h.locked, forall_mem_singleton.mpr hlocked⟩
  nodup := by
    refine nodup_append'.mpr ⟨h.nodup, nodup_singleton i, ?_⟩
    rw [disjoint_singleton]
    exact hnot
  receipt_mem j hj hreceipt := mem_append_left [i] (h.receipt_mem j hj hreceipt)
  failed_eq := h.failed_eq
  writing_eq := h.writing_eq
  writer_last j hj := by
    obtain ⟨before, after, horder, hafter⟩ := h.writer_last j hj
    refine ⟨before, after ++ [i], by rw [horder, append_assoc, cons_append], ?_⟩
    exact forall_mem_append.mpr ⟨hafter, forall_mem_singleton.mpr hreceipt⟩
  usable := by
    rw [committed_concat hreceipt]
    exact h.usable

end

theorem move [DecidableEq ι] {written : Nat} {progress : AppendProgress} {mode' : SinkMode ι}
    (h : Streams calls opened k order s (.writing i written))
    (happends : t.appends = update s.appends i progress)
    (hlocked : progress.isLocked = true) (hfits : mode'.Fits t k) (hfile : (t.sinks k).file =
      opened ++ (t.committed order).flatMap (fun i => (calls i).line) ++ mode'.torn calls)
    (hfailed : progress.hasFailed = true → mode'.writer = some i)
    (hwriting : ∀ written, progress = .writing written → mode' = .writing i written)
    (hwriter : ∀ j, mode'.writer = some j → j = i) :
    Streams calls opened k order t mode' := by
  obtain ⟨before, after, horder, hafter⟩ := h.writer_last i rfl
  have hself : t.appends i = progress := by rw [happends, update_self]
  have hother : ∀ j, j ≠ i → t.appends j = s.appends j := fun j hj => by
    rw [happends, update_of_ne hj]
  refine ⟨hfits, hfile, h.sink_order, fun j hj => ?_, h.nodup, fun j hj hreceipt => ?_,
    fun j hj hjfailed => ?_, fun j written hj hjwriting => ?_, fun j hj => ?_,
    .inl (h.terminated nofun)⟩
  · by_cases hji : j = i
    · rw [hji, hself]
      exact hlocked
    · rw [hother j hji]
      exact h.locked j hj
  · by_cases hji : j = i
    · rw [hji, horder]
      exact mem_append_right before mem_cons_self
    · rw [hother j hji] at hreceipt
      exact h.receipt_mem j hj hreceipt
  · by_cases hji : j = i
    · rw [hji, hself] at hjfailed
      rw [hji]
      exact hfailed hjfailed
    · rw [hother j hji] at hjfailed
      exact absurd (Option.some.inj (h.failed_eq j hj hjfailed)).symm hji
  · by_cases hji : j = i
    · rw [hji, hself] at hjwriting
      rw [hji]
      exact hwriting written hjwriting
    · rw [hother j hji] at hjwriting
      have hmode := h.writing_eq j written hj hjwriting
      exact absurd (SinkMode.writing.inj hmode).1.symm hji
  · obtain rfl := hwriter j hj
    refine ⟨before, after, horder, fun other hmem => ?_⟩
    have hne : other ≠ j := by
      rintro rfl
      have hnodup := h.nodup
      rw [horder, nodup_append'] at hnodup
      exact (nodup_cons.mp hnodup.2.1).1 hmem
    rw [hother other hne]
    exact hafter other hmem

end Streams

end Streams

theorem lockOrder_lock (i : ι) :
    lockOrder calls k [.lock i] = if (calls i).sink = k then [i] else [] := by
  unfold lockOrder
  split_ifs with h <;> simp [h]

section Steps

variable [DecidableEq ι] {opened : List UInt8} {order new : List ι} {mode : SinkMode ι}

/-- A step as a sink sees it, with the append that gets its mutex. -/
inductive SinkStep (calls : ι → AppendCall) (k : KnownSink) (s : Recorder ι) :
    List ι → Recorder ι → Prop
  | quiet {t : Recorder ι} (h : Quiet calls k s t) : SinkStep calls k s [] t
  | refused {t : Recorder ι} {i : ι} (hi : (calls i).sink = k) (h : s.appends i = .admitted)
      (hstate : (s.sinks k).state ≠ .healthy) (hquiet : Quiet calls k s t)
      (hlocked : (t.appends i).isLocked = true) : SinkStep calls k s [i] t
  | locked {i : ι} (hi : (calls i).sink = k) (h : s.appends i = .admitted)
      (hstate : (s.sinks k).state = .healthy) (hfree : s.locks k = none) :
      SinkStep calls k s [i] ((s.setLock k (some i)).setAppend i (.writing 0))
  | wrote {i : ι} {written bytes : Nat} (hi : (calls i).sink = k)
      (h : s.appends i = .writing written) :
      SinkStep calls k s [] (s.writeBytes calls i written bytes)
  | failed {i : ι} {written : Nat} (phase : CommitPhase) (cause : String) (hi : (calls i).sink = k)
      (h : s.appends i = .writing written) :
      SinkStep calls k s [] (s.failCommit calls i phase cause)
  | committed {i : ι} (hi : (calls i).sink = k)
      (h : s.appends i = .writing (calls i).line.length) : SinkStep calls k s [] (s.commit calls i)

variable {progress : AppendProgress}

theorem Quiet.of_other (hi : (calls i).sink ≠ k)
    (hsink : t.sinks k = s.sinks k) (hlock : t.locks k = s.locks k)
    (happends : t.appends = update s.appends i progress) : Quiet calls k s t := by
  have hother : ∀ j, (calls j).sink = k → t.appends j = s.appends j := by
    intro j hj
    rw [happends, update_of_ne]
    rintro rfl
    exact hi hj
  exact
    { sink := hsink, lock := hlock
      receipt := fun j hj => by rw [hother j hj]
      failed := fun j hj => by rw [hother j hj]
      locked := fun j hj h => by rwa [hother j hj]
      writing := fun j written hj => by rw [hother j hj] }

theorem Quiet.of_move (hsink : t.sinks k = s.sinks k)
    (hlock : t.locks k = s.locks k) (happends : t.appends = update s.appends i progress)
    (hreceipt : progress.hasReceipt = (s.appends i).hasReceipt)
    (hfailed : progress.hasFailed = (s.appends i).hasFailed)
    (hlocked : (s.appends i).isLocked = true → progress.isLocked = true)
    (hwriting : ∀ written, progress ≠ .writing written ∧ s.appends i ≠ .writing written) :
    Quiet calls k s t := by
  have hmove : ∀ j, j = i ∧ t.appends j = progress ∨ j ≠ i ∧ t.appends j = s.appends j := by
    intro j
    rw [happends]
    by_cases hj : j = i
    · subst hj
      exact .inl ⟨rfl, update_self ..⟩
    · exact .inr ⟨hj, update_of_ne hj ..⟩
  refine ⟨hsink, hlock, fun j _ => ?_, fun j _ => ?_, fun j _ h => ?_, fun j written _ => ?_⟩ <;>
    rcases hmove j with ⟨rfl, hj⟩ | ⟨-, hj⟩ <;> rw [hj]
  · exact hreceipt
  · exact hfailed
  · exact hlocked h
  · exact h
  · exact ⟨fun h => absurd h (hwriting written).1, fun h => absurd h (hwriting written).2⟩

theorem beginOperation_quiet (h : s.appends i = .idle) :
    Quiet calls k s (s.beginOperation calls i) := by
  have hmove : ∃ progress, (s.beginOperation calls i).appends =
      update s.appends i progress ∧ progress.hasReceipt = false ∧
      progress.hasFailed = false ∧ (∀ written, progress ≠ .writing written) ∧
      (s.beginOperation calls i).sinks = s.sinks ∧ (s.beginOperation calls i).locks = s.locks := by
    unfold beginOperation
    cases s.lifecycle.phase with
    | opened =>
      dsimp only
      split_ifs <;> exact ⟨_, rfl, rfl, rfl, fun _ => nofun, rfl, rfl⟩
    | closing | closed => exact ⟨_, rfl, rfl, rfl, fun _ => nofun, rfl, rfl⟩
  obtain ⟨progress, happends, hreceipt, hfailed, hwriting, hsinks, hlocks⟩ := hmove
  refine Quiet.of_move (congrFun hsinks k) (congrFun hlocks k) happends ?_ ?_ ?_ ?_
  · rw [hreceipt, h]
    rfl
  · rw [hfailed, h]
    rfl
  · rw [h]
    nofun
  · intro written
    rw [h]
    exact ⟨hwriting written, nofun⟩

/-- **What a step can do to a sink.** -/
theorem Step.sinkStep {event : RecorderEvent ι} (h : Step calls s event t) (k : KnownSink) :
    SinkStep calls k s (lockOrder calls k [event]) t := by
  cases h with
  | begin h => exact .quiet (beginOperation_quiet h)
  | @lock i h hfree =>
    rw [lockOrder_lock]
    unfold lockSink
    split_ifs with hi
    · subst hi
      cases hstate : (s.sinks (calls i).sink).state with
      | healthy => exact .locked rfl h hstate hfree
      | poisoned cause =>
        refine .refused rfl h (by rw [hstate]; nofun) ?_ ?_
        · refine Quiet.of_move rfl rfl rfl ?_ ?_ (fun _ => rfl) fun written => ?_
          · rw [h]
            rfl
          · rw [h]
            rfl
          · rw [h]
            exact ⟨nofun, nofun⟩
        · simp [setAppend, AppendProgress.isLocked]
    · refine .quiet ?_
      cases (s.sinks (calls i).sink).state with
      | healthy => exact .of_other hi rfl (update_of_ne (Ne.symm hi) ..) rfl
      | poisoned cause => exact .of_other hi rfl rfl rfl
  | @write i written bytes h _ _ =>
    by_cases hi : (calls i).sink = k
    · exact .wrote hi h
    · exact .quiet (.of_other hi (update_of_ne (Ne.symm hi) ..) rfl rfl)
  | @writeError i written cause h _ =>
    by_cases hi : (calls i).sink = k
    · exact .failed .write cause hi h
    · exact .quiet (.of_other hi (update_of_ne (Ne.symm hi) ..)
        (update_of_ne (Ne.symm hi) ..) rfl)
  | @syncData i h =>
    by_cases hi : (calls i).sink = k
    · exact .committed hi h
    · exact .quiet (.of_other hi rfl (update_of_ne (Ne.symm hi) ..) rfl)
  | @syncError i cause h =>
    by_cases hi : (calls i).sink = k
    · exact .failed .sync cause hi h
    · exact .quiet (.of_other hi (update_of_ne (Ne.symm hi) ..)
        (update_of_ne (Ne.symm hi) ..) rfl)
  | @finish i result h =>
    refine .quiet (Quiet.of_move rfl rfl rfl ?_ ?_ (fun _ => rfl) fun written => ?_)
    · rw [h]
      rcases result with failure | receipt <;> rfl
    · rw [h]
      rcases result with failure | receipt
      · cases failure <;> rfl
      · rfl
    · rw [h]
      exact ⟨nofun, nofun⟩
  | @close j h =>
    refine .quiet ?_
    unfold startClose
    split_ifs <;> exact Quiet.of_eq rfl rfl rfl
  | drained h hdrained => exact .quiet (Quiet.of_eq rfl rfl rfl)

namespace Streams

theorem locked_step (h : Streams calls opened k order s mode) (hi : (calls i).sink = k)
    (hadmitted : s.appends i = .admitted) (hstate : (s.sinks k).state = .healthy)
    (hfree : s.locks k = none) :
    Streams calls opened k (order ++ [i]) ((s.setLock k (some i)).setAppend i (.writing 0))
      (.writing i 0) := by
  have hmode : mode = .free := by
    have hfits := h.fits
    cases mode with
    | free => rfl
    | writing j written =>
      rw [hfits.2.1] at hfree
      cases hfree
    | failed j written | invalid => exact absurd hstate hfits.1
  subst hmode
  have hnot := h.notMem_of_admitted hadmitted
  set t := (s.setLock k (some i)).setAppend i (.writing 0)
  have hself : t.appends i = .writing 0 := update_self ..
  have hother : ∀ j, j ≠ i → t.appends j = s.appends j := fun j hj => update_of_ne hj ..
  refine ⟨⟨hstate, update_self .., hself⟩, ?_, ?_, fun j hj => ?_, ?_, ?_, ?_, ?_, ?_,
    .inl (h.terminated nofun)⟩
  · have hold := committed_congr (s := s) fun j (hj : j ∈ order) =>
      congrArg AppendProgress.hasReceipt (hother j fun hji => hnot (hji ▸ hj))
    have hnew : t.committed [i] = [] := by
      refine committed_eq_nil fun j hj => ?_
      rw [mem_singleton.mp hj, hself]
      rfl
    rw [committed_append, hold, hnew, append_nil]
    exact h.file
  · exact forall_mem_append.mpr ⟨h.sink_order, forall_mem_singleton.mpr hi⟩
  · rcases mem_append.mp hj with hj | hj
    · rw [hother j fun hji => hnot (hji ▸ hj)]
      exact h.locked j hj
    · rw [mem_singleton.mp hj, hself]
      rfl
  · refine nodup_append'.mpr ⟨h.nodup, nodup_singleton i, ?_⟩
    rw [disjoint_singleton]
    exact hnot
  · intro j hj hreceipt
    by_cases hji : j = i
    · rw [hji, hself] at hreceipt
      cases hreceipt
    · rw [hother j hji] at hreceipt
      exact mem_append_left [i] (h.receipt_mem j hj hreceipt)
  · intro j hj hfailed
    by_cases hji : j = i
    · rw [hji, hself] at hfailed
      cases hfailed
    · rw [hother j hji] at hfailed
      cases h.failed_eq j hj hfailed
  · intro j written hj hwriting
    by_cases hji : j = i
    · rw [hji, hself] at hwriting
      rw [hji, AppendProgress.writing.inj hwriting]
    · rw [hother j hji] at hwriting
      cases h.writing_eq j written hj hwriting
  · intro j hj
    obtain rfl := Option.some.inj hj
    exact ⟨order, [], rfl, nofun⟩

/-- The holder of the mutex keeps its receipt, which it has not got yet. -/
theorem committed_of_move {written : Nat} (h : Streams calls opened k order s (.writing i written))
    (happends : t.appends = update s.appends i progress)
    (hreceipt : progress.hasReceipt = false) : t.committed order = s.committed order := by
  refine committed_congr fun j _ => ?_
  rw [happends]
  by_cases hji : j = i
  · subst hji
    rw [update_self, hreceipt, h.fits.2.2]
    rfl
  · rw [update_of_ne hji]

/-- The holder of the mutex gets its receipt, after all others. -/
theorem committed_of_commit {written : Nat}
    (h : Streams calls opened k order s (.writing i written))
    (happends : t.appends = update s.appends i progress)
    (hreceipt : progress.hasReceipt = true) :
    t.committed order = s.committed order ++ [i] := by
  obtain ⟨before, after, horder, hafter⟩ := h.writer_last i rfl
  have hnodup := h.nodup
  rw [horder, nodup_append', nodup_cons, disjoint_cons_right] at hnodup
  obtain ⟨-, ⟨hiafter, -⟩, hibefore, -⟩ := hnodup
  have hother : ∀ j, j ≠ i → (t.appends j).hasReceipt = (s.appends j).hasReceipt := fun j hj => by
    rw [happends, update_of_ne hj]
  have hcons : ∀ u : Recorder ι, u.committed (i :: after) = u.committed [i] ++ u.committed after :=
    fun u => committed_append u [i] after
  have hbefore : t.committed before = s.committed before :=
    committed_congr fun j hj => hother j fun hji => hibefore (hji ▸ hj)
  have hnone : s.committed after = [] := committed_eq_nil hafter
  have hnone' : t.committed after = [] := by
    rw [committed_congr fun j hj => hother j fun hji => hiafter (hji ▸ hj), hnone]
  have hs : s.committed [i] = [] := committed_eq_nil fun j hj => by
    rw [mem_singleton.mp hj, h.fits.2.2]
    rfl
  have ht : t.committed [i] = [i] := by
    unfold committed
    rw [happends]
    simp [hreceipt]
  rw [horder, committed_append, committed_append, hcons, hcons, hbefore, hnone, hnone', hs, ht]
  simp

/-- **Every step keeps a stream.** -/
theorem step (h : Streams calls opened k order s mode) (hstep : SinkStep calls k s new t) :
    ∃ mode', Streams calls opened k (order ++ new) t mode' := by
  cases hstep with
  | quiet hquiet =>
    rw [append_nil]
    exact ⟨mode, h.of_quiet hquiet⟩
  | @refused _ i hi hadmitted _ hquiet hlocked =>
    refine ⟨mode, (h.of_quiet hquiet).concat hi (h.notMem_of_admitted hadmitted) hlocked ?_⟩
    rw [hquiet.receipt i hi, hadmitted]
    rfl
  | locked hi hadmitted hstate hfree => exact ⟨_, h.locked_step hi hadmitted hstate hfree⟩
  | @wrote i written bytes hi hwriting =>
    rw [append_nil]
    obtain rfl := h.writing_eq i written hi hwriting
    subst hi
    refine ⟨.writing i (written + bytes), h.move rfl rfl ?_ ?_ nofun ?_ ?_⟩
    · refine ⟨?_, h.fits.2.1, update_self ..⟩
      simpa [writeBytes, setSink, setAppend] using h.fits.1
    · rw [h.committed_of_move rfl rfl]
      have hfile := h.file
      simp only [writeBytes, setSink, setAppend, update_self, SinkMode.torn] at hfile ⊢
      rw [hfile, take_add, append_assoc]
    · intro written' hwritten'
      rw [AppendProgress.writing.inj hwritten']
    · intro j hj
      exact (Option.some.inj hj).symm
  | @failed i written phase cause hi hwriting =>
    rw [append_nil]
    obtain rfl := h.writing_eq i written hi hwriting
    subst hi
    refine ⟨.failed i written, h.move rfl rfl ?_ ?_ (fun _ => rfl) nofun ?_⟩
    · refine ⟨?_, update_self .., ?_⟩
      · simp [failCommit, setSink, setLock, setAppend]
      · simp [failCommit, setAppend, AppendProgress.hasFailed]
    · rw [h.committed_of_move rfl rfl]
      have hfile := h.file
      simp only [failCommit, setSink, setLock, setAppend, update_self, SinkMode.torn]
        at hfile ⊢
      exact hfile
    · intro j hj
      exact (Option.some.inj hj).symm
  | @committed i hi hwriting =>
    rw [append_nil]
    obtain rfl := h.writing_eq i _ hi hwriting
    subst hi
    refine ⟨.free, h.move rfl rfl ⟨h.fits.1, update_self ..⟩ ?_ nofun nofun nofun⟩
    rw [h.committed_of_commit rfl rfl]
    have hfile := h.file
    simp only [commit, setLock, setAppend, SinkMode.torn, take_length] at hfile ⊢
    rw [hfile]
    simp

end Streams

/-! ## The lifecycle -/

/-- The operations that the lifecycle counts are the appends that are active. -/
def Counted (s : Recorder ι) : Prop :=
  ∃ running : Finset ι, (∀ i, i ∈ running ↔ (s.appends i).isActive = true) ∧
    running.card = s.lifecycle.activeOperations

variable {event : RecorderEvent ι}

section

variable (h : Counted s)

include h

theorem Counted.of_move (happends : t.appends = update s.appends i progress)
    (hlifecycle : t.lifecycle.activeOperations = s.lifecycle.activeOperations)
    (hactive : progress.isActive = (s.appends i).isActive) : Counted t := by
  obtain ⟨running, hrunning, hcard⟩ := h
  refine ⟨running, fun j => ?_, hcard.trans hlifecycle.symm⟩
  rw [hrunning, happends]
  by_cases hj : j = i
  · subst hj
    rw [update_self, hactive]
  · rw [update_of_ne hj]

theorem Counted.activate
    (hidle : (s.appends i).isActive = false) (hactive : progress.isActive = true) :
    Counted (s.activate.setAppend i progress) := by
  obtain ⟨running, hrunning, hcard⟩ := h
  have hnot : i ∉ running := by
    rw [hrunning, hidle]
    nofun
  refine ⟨insert i running, fun j => ?_, ?_⟩
  · rw [Finset.mem_insert, hrunning]
    by_cases hj : j = i
    · subst hj
      simp [setAppend, hactive]
    · simp [setAppend, Recorder.activate, hj]
  · rw [Finset.card_insert_of_notMem hnot, hcard]
    rfl

theorem Counted.finish {result : Except RecordFailure AppendReceipt}
    (hended : s.appends i = .ended result) : Counted (s.finishOperation i result) := by
  obtain ⟨running, hrunning, hcard⟩ := h
  have hmem : i ∈ running := by
    rw [hrunning, hended]
    rfl
  refine ⟨running.erase i, fun j => ?_, ?_⟩
  · rw [Finset.mem_erase, hrunning]
    by_cases hj : j = i
    · subst hj
      simp [finishOperation, setAppend, AppendProgress.isActive]
    · simp [finishOperation, setAppend, hj]
  · rw [Finset.card_erase_of_mem hmem, hcard]
    rfl

theorem Counted.begin (hidle : s.appends i = .idle) : Counted (s.beginOperation calls i) := by
  have hinactive : (s.appends i).isActive = false := by
    rw [hidle]
    rfl
  unfold beginOperation
  cases s.lifecycle.phase with
  | opened =>
    dsimp only
    split_ifs <;> exact h.activate hinactive rfl
  | closing | closed => exact h.of_move rfl rfl hinactive.symm

theorem Counted.lock (hadmitted : s.appends i = .admitted) : Counted (s.lockSink calls i) := by
  have hactive : (s.appends i).isActive = true := by
    rw [hadmitted]
    rfl
  unfold lockSink
  cases (s.sinks (calls i).sink).state with
  | healthy | poisoned cause => exact h.of_move rfl rfl hactive.symm

theorem Counted.step (hstep : Step calls s event t) : Counted t := by
  cases hstep with
  | begin hidle => exact h.begin hidle
  | lock hadmitted _ => exact h.lock hadmitted
  | write hwriting _ _ | writeError cause hwriting _ | syncData hwriting
  | syncError cause hwriting => exact h.of_move rfl rfl (by rw [hwriting]; rfl)
  | finish hended => exact h.finish hended
  | close _ =>
    unfold startClose
    split_ifs <;> exact h
  | drained _ _ => exact h

omit [DecidableEq ι] in
/-- No operation is active. -/
theorem Counted.inactive (hnone : s.lifecycle.activeOperations = 0) (i : ι) :
    (s.appends i).isActive = false := by
  obtain ⟨running, hrunning, hcard⟩ := h
  rw [hnone, Finset.card_eq_zero] at hcard
  have hi := hrunning i
  rw [hcard] at hi
  simpa using hi

end

/-- A recorder that a `close` has returned from. -/
structure Closed (s : Recorder ι) : Prop where
  phase : s.lifecycle.phase = .closed
  drained : s.lifecycle.activeOperations = 0

/-- After a `close` has returned, a step is a refused append or another `close`. -/
theorem Closed.step (h : Closed s) (hcounted : Counted s)
    (hstep : Step calls s event t) : Closed t ∧ ∀ k, Quiet calls k s t := by
  have hinactive := hcounted.inactive h.drained
  have hnot : ∀ {i progress}, s.appends i = progress → progress.isActive ≠ true := by
    rintro i _ rfl
    simp [hinactive i]
  cases hstep with
  | @begin i hidle =>
    refine ⟨?_, fun k => beginOperation_quiet hidle⟩
    have hrefused : s.beginOperation calls i =
        s.setAppend i (.returned (.error .recorderClosed)) := by
      unfold beginOperation
      rw [h.phase]
    rw [hrefused]
    exact ⟨h.phase, h.drained⟩
  | lock hadmitted _ => exact absurd rfl (hnot hadmitted)
  | write hwriting _ _ | writeError cause hwriting _ | syncData hwriting
  | syncError cause hwriting => exact absurd rfl (hnot hwriting)
  | finish hended => exact absurd rfl (hnot hended)
  | @close j _ =>
    have hclosed : s.startClose j = s.setClose j .closed .returned := if_pos h.phase
    rw [hclosed]
    exact ⟨⟨rfl, h.drained⟩, fun k => .of_eq rfl rfl rfl⟩
  | drained _ _ => exact ⟨⟨rfl, h.drained⟩, fun k => .of_eq rfl rfl rfl⟩

/-- A step that is not one of `close` leaves the phase, and nobody returns from `close`. -/
theorem Step.phase (h : Step calls s event t) :
    (t.lifecycle.phase = s.lifecycle.phase ∧ t.closes = s.closes) ∨ (∃ j, t = s.startClose j) ∨
      ∃ j, t = s.setClose j .closed .returned ∧ s.lifecycle.activeOperations = 0 := by
  cases h with
  | @begin i _ =>
    refine .inl ?_
    unfold beginOperation
    cases hphase : s.lifecycle.phase with
    | opened =>
      dsimp only
      split_ifs <;> exact ⟨hphase, rfl⟩
    | closing | closed => exact ⟨hphase, rfl⟩
  | @lock i _ _ =>
    refine .inl ?_
    unfold lockSink
    cases (s.sinks (calls i).sink).state with
    | healthy | poisoned cause => exact ⟨rfl, rfl⟩
  | @close j _ => exact .inr (.inl ⟨j, rfl⟩)
  | @drained j _ hdrained => exact .inr (.inr ⟨j, rfl, hdrained⟩)
  | _ => exact .inl ⟨rfl, rfl⟩

/-- The lifecycle of a recorder in use. -/
structure Lifecycle (s : Recorder ι) : Prop where
  counted : Counted s
  drained : s.lifecycle.phase = .closed → Closed s
  returned : ∀ j, s.closes j = .returned → Closed s

theorem Lifecycle.step (h : Lifecycle s) (hstep : Step calls s event t) : Lifecycle t := by
  have hcounted := h.counted.step hstep
  by_cases hphase : s.lifecycle.phase = .closed
  · have hclosed := ((h.drained hphase).step h.counted hstep).1
    exact ⟨hcounted, fun _ => hclosed, fun _ _ => hclosed⟩
  have hopen : ∀ j, s.closes j ≠ .returned := fun j hj => hphase (h.returned j hj).phase
  rcases hstep.phase with ⟨hsame, hcloses⟩ | ⟨j, rfl⟩ | ⟨j, rfl, hdrained⟩
  · refine ⟨hcounted, fun hclosed => ?_, fun j hj => ?_⟩
    · exact absurd (hsame.symm.trans hclosed) hphase
    · exact absurd (congrFun hcloses.symm j ▸ hj) (hopen j)
  · unfold startClose at hcounted ⊢
    split_ifs at hcounted ⊢ with hdrained
    · exact ⟨hcounted, fun _ => ⟨rfl, hdrained⟩, fun _ _ => ⟨rfl, hdrained⟩⟩
    · refine ⟨hcounted, nofun, fun other hother => ?_⟩
      by_cases hj : other = j
      · subst hj
        simp [setClose] at hother
      · exact absurd ((update_of_ne hj ..).symm.trans hother) (hopen other)
  · exact ⟨hcounted, fun _ => ⟨rfl, hdrained⟩, fun _ _ => ⟨rfl, hdrained⟩⟩

end Steps

end Recorder

end BoltV3.Evidence
