import BoltV3.Guarantees.Permits
import Mathlib.Data.Multiset.Defs

/-!
# The gate of an execution

A projection is assembled outside the lock and committed with the revision it started from. That is
safe if nothing changes without a new revision; the moves of the book are stamped with it
(`Book.Step.stamped`), so the compare-and-set of `commit_capital_admission_nt_projection` sees every
change. The flags of the gate are written by rebuilds, fills, retirements and capture failures in
any order: a failed fill integrity is final, and a capture failure ends with a later allowance only.

* `Inner.capitalView` is what a commit must not miss. The ledger is a multiset in it, as the source
  never reads its order.
-/

namespace BoltV3.Submit

open Lib Loss Capital Evidence
open Std (ExtTreeMap)

/-! ## Views -/

/-- The live reservations, the client-order index with its phases, the reconciled flag and the
capture failure. -/
structure CapitalView where
  liveReservations : Multiset LiveReservation
  clientOrderReservations : ExtTreeMap String SubmitReservationRecord
  reconciled : Bool
  captureFailureSource : Option String
  captureFailureObservedAtNs : Option Nat

def SubmitCapitalAdmissionState.view (capital : SubmitCapitalAdmissionState) : CapitalView :=
  { liveReservations := capital.gate.liveReservations
    clientOrderReservations := capital.clientOrderReservations
    reconciled := capital.gate.reconciliationComplete
    captureFailureSource := capital.captureFailureSource
    captureFailureObservedAtNs := capital.captureFailureObservedAtNs }

def Inner.capitalView (inner : Inner) : Option CapitalView :=
  inner.capitalAdmission.map SubmitCapitalAdmissionState.view

/-- The view of a book. -/
def Book.view (book : Book) : CapitalView :=
  { liveReservations := book.orders.toList.map fun p => p.2.entry
    clientOrderReservations := book.orders.map fun _ => Holding.record
    reconciled := book.gate.reconciled
    captureFailureSource := book.gate.captureFailure.map Prod.fst
    captureFailureObservedAtNs := book.gate.captureFailure.map Prod.snd }

theorem RepresentsCapital.view {capital : SubmitCapitalAdmissionState} {book : Book}
    (h : RepresentsCapital capital book) : capital.view = book.view := by
  unfold SubmitCapitalAdmissionState.view Book.view
  rw [h.index, h.reconciled, h.captureSource, h.captureObserved, Multiset.coe_eq_coe.mpr h.ledger]

/-- Two states of one configuration with the same orders and the same gate. -/
theorem Represents.capitalView {terms : Option CapitalTerms} {market market' : Option Market}
    {inner inner' : Inner} {book book' : Book} (h : Represents terms market inner book)
    (h' : Represents terms market' inner' book')
    (hbook : (book'.orders, book'.gate) = (book.orders, book.gate)) :
    inner'.capitalView = inner.capitalView := by
  refine Represents.map_eq (fun _ _ hrep => hrep.view) h h' ?_
  obtain ⟨horders, hgate⟩ := Prod.mk.injEq .. ▸ hbook
  unfold Book.view
  rw [horders, hgate]

section

variable [DecimalArith] {setup : Setup} {s : System} {market : Option Market} {book : Book}

/-! ## The revision -/

theorem StepMoves.revision {op : Op setup} {market' : Option Market} {book' : Book}
    {moves : List Move} (h : StepMoves s market book op moves market' book')
    (hsimulates : Simulates setup s market book) :
    s.inner.capitalAdmissionStateRevision ≤ (s.step op).inner.capitalAdmissionStateRevision ∧
      ((s.step op).inner.capitalView ≠ s.inner.capitalView →
        s.inner.capitalAdmissionStateRevision < (s.step op).inner.capitalAdmissionStateRevision ∨
        s.inner.capitalAdmissionStateRevision = u64Max ∧ (s.step op).inner.reconciled = false) := by
  have hbefore := hsimulates.represents
  have hafter := h.simulates.represents
  have hle := h.run.stamp_le (Book.Step.stamped _)
  rw [hbefore.revision, hafter.revision, hafter.reconciled]
  refine ⟨hle, fun hchanged => ?_⟩
  rcases Nat.lt_or_eq_of_le hle with hlt | heq
  · exact .inl hlt
  · rcases Book.run_unadvanced h.run heq with rfl | hexhausted
    · rw [← h.run.eq_of_nil] at hafter
      exact absurd (hbefore.capitalView hafter rfl) hchanged
    · exact .inr hexhausted

/-- A commit that is accepted found the revision it was assembled at, below its maximum. -/
theorem System.AcceptsRebuild.epoch {projection : NtProjection setup} {nowNs : Nat} {append : Bool}
    (h : s.AcceptsRebuild projection nowNs append)
    (hrep : Represents setup.terms market s.inner book) :
    s.inner.capitalAdmission = none ∨
      projection.expectedEpoch = book.revision ∧ book.revision < u64Max := by
  rcases h.moves hrep with hnone | ⟨hepoch, positive, book', -, hmove, -⟩
  · exact .inl hnone
  · cases hmove with
    | rebuild _ _ _ _ _ _ _ _ _ _ revision =>
      have hbounded := book'.bounded
      exact .inr ⟨hepoch, by omega⟩

/-- **Every change of the view advances the revision, so an accepted commit has missed none**
between the state its epoch was read in and its own. -/
theorem revision_guards_view (setup : Setup) (ops : List (Op setup)) : let s := setup.start.run ops
    (∀ op : Op setup,
      s.inner.capitalAdmissionStateRevision ≤ (s.step op).inner.capitalAdmissionStateRevision ∧
      ((s.step op).inner.capitalView ≠ s.inner.capitalView →
        s.inner.capitalAdmissionStateRevision < (s.step op).inner.capitalAdmissionStateRevision ∨
        s.inner.capitalAdmissionStateRevision = u64Max ∧
          (s.step op).inner.reconciled = false)) ∧
    ∀ (before after : List (Op setup)) (projection : NtProjection setup) nowNs append,
      projection.expectedEpoch = s.inner.capitalAdmissionStateRevision →
      (s.run (before ++ after)).AcceptsRebuild projection nowNs append →
      (s.run before).inner.capitalView = s.inner.capitalView := by
  intro s
  obtain ⟨_, market, book, -, hsimulates⟩ := reachable_simulates setup ops
  refine ⟨fun op => ?_, ?_⟩
  · obtain ⟨moves, market', book', hmoves⟩ := step_moves hsimulates op
    exact hmoves.revision hsimulates
  · intro before after projection nowNs append hepoch haccepts
    obtain ⟨_, market₁, book₁, hrun₁, hsimulates₁, -⟩ := run_simulates hsimulates before
    obtain ⟨_, market₂, book₂, hrun₂, hsimulates₂, -⟩ := run_simulates hsimulates₁ after
    rw [System.run_append] at haccepts
    have hrep := hsimulates.represents
    have hrep₁ := hsimulates₁.represents
    rcases haccepts.epoch hsimulates₂.represents with hnone | ⟨hcurrent, hbound⟩
    · rw [Inner.capitalView, Inner.capitalView, hsimulates₂.represents.absent_of hrep hnone,
        hsimulates₂.represents.absent_of hrep₁ hnone]
    · -- The revision is the same at both ends, so it is the same in between.
      have hle₁ := hrun₁.stamp_le (Book.Step.stamped _)
      have hle₂ := hrun₂.stamp_le (Book.Step.stamped _)
      rw [hrep.revision] at hepoch
      have hview := hrun₁.view_eq (Book.Step.stamped _) (by omega) (by omega)
      exact hrep.capitalView hrep₁ hview.symm

/-! ## Failures -/

/-- Whether the integrity of the fill evidence has failed. -/
def Inner.fillEvidenceFailed (inner : Inner) : Bool :=
  inner.capitalAdmission.any (·.fillEvidenceIntegrityFailed)

/-- When the capture failure in force was observed. -/
def Inner.captureFailedAt (inner : Inner) : Option Nat :=
  inner.capitalAdmission.bind (·.captureFailureObservedAtNs)

variable {terms : Option CapitalTerms}

omit [DecimalArith] in
theorem Represents.fillEvidenceFailed {inner : Inner} (h : Represents terms market inner book)
    (hfailed : inner.fillEvidenceFailed = true) : book.gate.fillFailed = true := by
  unfold Inner.fillEvidenceFailed at hfailed
  cases hcapital : inner.capitalAdmission with
  | none =>
    rw [hcapital] at hfailed
    cases hfailed
  | some capital =>
    rw [hcapital] at hfailed
    exact (h.present capital hcapital).fillFailed.symm.trans hfailed

omit [DecimalArith] in
theorem Represents.captureFailedAt {inner : Inner} (h : Represents terms market inner book) :
    inner.captureFailedAt = book.gate.captureFailure.map Prod.snd := by
  unfold Inner.captureFailedAt
  cases hcapital : inner.capitalAdmission with
  | none =>
    rw [(h.absent hcapital).2]
    rfl
  | some capital => exact (h.present capital hcapital).captureObserved

/-- An admission of capital finds the gate open. -/
theorem System.AdmitsCapital.gate {op : Op setup} (h : s.AdmitsCapital op)
    (hsound : Sound setup (s.step op)) (hsimulates : Simulates setup s market book) :
    book.gate.reconciled = true ∧ book.gate.captureFailure = none ∧ book.revision ≠ u64Max := by
  obtain ⟨moves, market', book', hmoves⟩ := step_moves hsimulates op
  obtain ⟨hrequests, id, holding, hreserve⟩ := h.reserves hsound hmoves
  have hrebuild := hmoves.no_rebuild (by rintro projection nowNs append rfl; exact hrequests rfl)
  refine ⟨?_, ?_, fun hexhausted => ?_⟩
  · by_contra hclosed
    rw [Bool.not_eq_true] at hclosed
    exact (Book.run_closed hmoves.run hrebuild hclosed).2 id holding hreserve
  · by_contra hfailed
    exact Book.run_suspended hmoves.run hrebuild hfailed id holding hreserve
  · cases (Book.run_exhausted hmoves.run hexhausted).2 _ hreserve

/-- The rebuild is accepted, and it shows an allowance seen after the capture failure in force. -/
def System.Recaptures (s : System) (projection : NtProjection setup) (nowNs : Nat)
    (append : Bool) (failedAt : Nat) : Prop :=
  s.AcceptsRebuild projection nowNs append ∧ projection.components ≠ none ∧
    s.inner.captureFailedAt = some failedAt ∧
    ∃ seen, projection.acceptedAllowanceObservedAtNs = some seen ∧ failedAt < seen

/-- A capture failure is in force until a rebuild recaptures the allowance. -/
theorem run_captureFailed (hsimulates : Simulates setup s market book) {failure : String × Nat}
    (hfailed : book.gate.captureFailure = some failure) (ops : List (Op setup)) :
    (∃ market' book', Simulates setup (s.run ops) market' book' ∧
      book'.gate.captureFailure ≠ none) ∨
    ∃ before projection nowNs append after failedAt,
      ops = before ++ .rebuild projection nowNs append :: after ∧
      (s.run before).Recaptures projection nowNs append failedAt ∧
      (failedAt = failure.2 ∨ ∃ source, .suspend source failedAt ∈ before) := by
  induction ops generalizing s market book failure with
  | nil => exact .inl ⟨market, book, hsimulates, by rw [hfailed]; rintro ⟨⟩⟩
  | cons op ops ih =>
    obtain ⟨moves, market', book', hmoves⟩ := step_moves hsimulates op
    obtain ⟨last, hlast, hnext | ⟨observed, allowance, hmem, hrecaptures⟩⟩ :=
      Book.run_captureFailure hmoves.run hfailed
    · rcases ih hmoves.simulates hnext with
        hforce | ⟨before, projection, nowNs, append, after, failedAt, rfl, hrecaptures, hwhen⟩
      · exact .inl hforce
      · refine .inr ⟨op :: before, projection, nowNs, append, after, failedAt, rfl, hrecaptures, ?_⟩
        rcases hwhen with rfl | ⟨source, hsuspend⟩
        · rcases hlast with rfl | hsuspend
          · exact .inl rfl
          · obtain rfl : op = .suspend last.1 last.2 := hmoves.justified _ hsuspend
            exact .inr ⟨last.1, List.mem_cons_self⟩
        · exact .inr ⟨source, List.mem_cons_of_mem _ hsuspend⟩
    · obtain ⟨projection, nowNs, append, _, rfl, haccepts, -, rfl⟩ := hmoves.justified _ hmem
      -- A rebuild does not suspend, so the failure in force is the one from before.
      have hsame : last = failure := hlast.resolve_right fun hsuspend => by
        cases (hmoves.justified _ hsuspend : Op.rebuild projection nowNs append = _)
      obtain ⟨source, failedAt, seen, hfailure, hallowance, hlater⟩ := hrecaptures
      obtain ⟨_, hcomponents, hseen⟩ := Option.bind_eq_some_iff.mp hallowance
      rw [← hsame, Option.some.inj hfailure] at hfailed
      refine .inr ⟨[], projection, nowNs, append, ops, failedAt, rfl,
        ⟨haccepts, ?_, ?_, seen, hseen, hlater⟩, .inl ?_⟩
      · rw [hcomponents]
        nofun
      · rw [System.run_nil, hsimulates.represents.captureFailedAt, hfailed]
        rfl
      · rw [← hsame, Option.some.inj hfailure]

/-- **A failed fill integrity shuts the gate for good, and a capture failure until a rebuild shows a
later allowance.** -/
theorem failures_shut_gate (setup : Setup) (ops : List (Op setup)) : let s := setup.start.run ops
    (s.inner.fillEvidenceFailed = true → ∀ later : List (Op setup),
      (s.run later).inner.reconciled = false ∧ ∀ op : Op setup, ¬ (s.run later).AdmitsCapital op) ∧
    ∀ source observedAtNs (later : List (Op setup)) (op : Op setup),
      let suspended := s.step (.suspend source observedAtNs : Op setup)
      (suspended.run later).AdmitsCapital op →
      ∃ before projection nowNs append after failedAt,
        later = before ++ .rebuild projection nowNs append :: after ∧
        (suspended.run before).Recaptures projection nowNs append failedAt ∧
        (failedAt = observedAtNs ∨ ∃ source, .suspend source failedAt ∈ before) := by
  intro s
  obtain ⟨_, market, book, -, hsimulates⟩ := reachable_simulates setup ops
  have hsound : ∀ later : List (Op setup), Sound setup (s.run later) := by
    intro later
    have := reachable_sound setup (ops ++ later)
    rwa [System.run_append] at this
  refine ⟨fun hfailed later => ?_, ?_⟩
  · obtain ⟨_, market', book', hrun, hsimulates', -⟩ := run_simulates hsimulates later
    have hsealed : book'.gate.reconciled = false := by
      refine book'.gate.sealed (hrun.invariant (I := fun book => book.gate.fillFailed = true) ?_
        (hsimulates.represents.fillEvidenceFailed hfailed))
      exact fun _ _ _ hbefore hstep => hstep.fillFailed hbefore
    refine ⟨hsimulates'.represents.reconciled.trans hsealed, fun op hadmits => ?_⟩
    obtain ⟨hopen, -⟩ := hadmits.gate ((hsound later).step op) hsimulates'
    rw [hsealed] at hopen
    cases hopen
  · intro source observedAtNs later op suspended hadmits
    have hsound' : Sound setup ((suspended.run later).step op) :=
      (hsound (.suspend source observedAtNs :: later)).step op
    obtain ⟨_, market₁, book₁, hmoves, hfailed | hexhausted | hnone⟩ :=
      suspend_stepMoves hsimulates source observedAtNs
    · rcases run_captureFailed hmoves.simulates hfailed later with
        ⟨market₂, book₂, hsimulates₂, hforce⟩ | hrecaptured
      · exact absurd (hadmits.gate hsound' hsimulates₂).2.1 hforce
      · exact hrecaptured
    · obtain ⟨_, market₂, book₂, hrun, hsimulates₂, -⟩ := run_simulates hmoves.simulates later
      exact absurd (Book.run_exhausted hrun hexhausted).1 (hadmits.gate hsound' hsimulates₂).2.2
    · obtain ⟨_, market₂, book₂, -, hsimulates₂, -⟩ := run_simulates hmoves.simulates later
      have hopen := (hadmits.gate hsound' hsimulates₂).1
      have hrep₂ := hsimulates₂.represents
      rw [(hrep₂.absent (hsimulates.represents.absent_of hrep₂ hnone)).2] at hopen
      cases hopen

end

/-! ## Evaluations -/

section

open SubmitAdmissionEvaluation

variable [DecimalArith] (inner : Inner) (request : SubmitAdmissionRequest) (nowNs : Nat)

omit [DecimalArith] in
/-- The stale reason of the diagnostics is the one under which a halt is counted. -/
theorem lossSnapshotDiagnostics_staleReason (policy : LossGovernorPolicy) (snapshot : LossSnapshot)
    (observations : LossSourceObservationTimestamps) :
    (Loss.lossSnapshotDiagnostics policy (some snapshot) nowNs observations).staleReason =
      lossSnapshotStaleReason policy snapshot nowNs := by
  unfold Loss.lossSnapshotDiagnostics lossSnapshotStaleReason
  by_cases hfuture : snapshot.observedAtNs > nowNs <;> simp [hfuture]

omit [DecimalArith] in
theorem mem_lossLimitReasons {limit pnl : Option Decimal} {reason other : LossHaltReason}
    (h : other ∈ lossLimitReasons limit pnl reason) : other = reason := by
  unfold lossLimitReasons at h
  split at h
  · split_ifs at h
    · exact List.mem_singleton.mp h
    · cases h
  · cases h

/-- The drawdown limit halts with its own reason, unless the subtraction overflows. -/
theorem drawdownReasons_cases (limit current peak : Option Decimal) :
    (∃ l c p, limit = some l ∧ current = some c ∧ peak = some p ∧ c < p ∧
        DecimalArith.checkedSub p c = none ∧ drawdownReasons limit current peak = none) ∨
      ∃ reasons, drawdownReasons limit current peak = some reasons ∧
        ∀ reason ∈ reasons, reason = .maxDrawdownLimit := by
  unfold drawdownReasons
  split
  · rename_i l c p
    unfold drawdownBreaches
    by_cases hlt : c < p
    · rw [if_pos hlt]
      cases hsub : DecimalArith.checkedSub p c with
      | none => exact .inl ⟨l, c, p, rfl, rfl, rfl, hlt, hsub, rfl⟩
      | some drawdown =>
        refine .inr ⟨_, rfl, fun reason hreason => ?_⟩
        dsimp only at hreason
        split_ifs at hreason
        · exact List.mem_singleton.mp hreason
        · cases hreason
    · rw [if_neg hlt]
      exact .inr ⟨[], rfl, by simp⟩
  · exact .inr ⟨[], rfl, by simp⟩

/-- A drawdown limit is set, and the drawdown of the loss snapshot overflows. -/
def Inner.DrawdownOverflows (inner : Inner) : Prop :=
  ∃ policy snapshot limit current peak, inner.lossPolicy = some policy ∧
    inner.lossSnapshot = some snapshot ∧ policy.maxDrawdown = some limit ∧
    snapshot.currentEquity = some current ∧ snapshot.peakEquity = some peak ∧ current < peak ∧
    DecimalArith.checkedSub peak current = none

/-- Unless the drawdown overflows, a refusal of the loss governor has its reasons, and that of a
stale snapshot is the one under which it is counted. -/
theorem halt_has_reasons {policy : LossGovernorPolicy} (hpolicy : inner.lossPolicy = some policy)
    (observations : LossSourceObservationTimestamps) :
    (evaluateLossAdmissionWithObservations policy inner.lossSnapshot nowNs observations = none ∧
        inner.DrawdownOverflows) ∨
      ∃ decision, evaluateLossAdmissionWithObservations policy inner.lossSnapshot nowNs
          observations = some decision ∧
        decision.accepted = decision.haltReasons.isEmpty ∧
        (decision.haltReasons.contains .staleLossSnapshot = true →
          ∃ reason, staleLossGovernorHaltReason policy inner.lossSnapshot nowNs = .ok reason) := by
  rcases hsnapshot : inner.lossSnapshot with _ | snapshot
  · exact .inr ⟨_, rfl, rfl, fun _ => ⟨_, rfl⟩⟩
  unfold evaluateLossAdmissionWithObservations staleLossGovernorHaltReason
  dsimp only
  rw [lossSnapshotDiagnostics_staleReason]
  rcases lossSnapshotStaleReason policy snapshot nowNs with _ | reason
  · rcases drawdownReasons_cases policy.maxDrawdown snapshot.currentEquity snapshot.peakEquity with
      ⟨limit, current, peak, hlimit, hcurrent, hpeak, hlt, hsub, hnone⟩ | ⟨reasons, hsome, hall⟩
    · rw [hnone]
      exact .inl ⟨rfl, policy, snapshot, limit, current, peak, hpolicy, hsnapshot, hlimit, hcurrent,
        hpeak, hlt, hsub⟩
    · rw [hsome]
      refine .inr ⟨_, rfl, rfl, fun hstale => ?_⟩
      -- no limit halts as a stale snapshot
      simp only [List.contains_iff_mem, List.mem_append] at hstale
      rcases hstale with ((hmem | hmem) | hmem) | hmem
      · cases mem_lossLimitReasons hmem
      · cases mem_lossLimitReasons hmem
      · cases mem_lossLimitReasons hmem
      · cases hall _ hmem
  · exact .inr ⟨_, rfl, rfl, fun _ => ⟨reason, rfl⟩⟩

omit [DecimalArith] in
theorem validate_lossHalt {reasons : List LossHaltReason} (h : reasons.isEmpty = false)
    (diagnostics : LossSnapshotDiagnostics) : (lossHalt reasons diagnostics).validate = .ok () := by
  unfold validate lossHalt
  simp [h]

/-- The loss governor ends an evaluation with a halt that passes its check, or panics. -/
theorem evaluateLoss_halts {inner' : Inner}
    {result : Except SubmitAdmissionError SubmitAdmissionEvaluation}
    (h : evaluateLoss inner request nowNs = (inner', .error result)) :
    (∃ evaluation, result = .ok evaluation ∧ evaluation.validate = .ok ()) ∨
      result = .error .panicked ∧ inner.DrawdownOverflows := by
  unfold evaluateLoss at h
  split at h
  · rename_i policy hpolicy _
    rcases halt_has_reasons inner nowNs hpolicy inner.lossSourceObservations with
      ⟨hnone, hoverflows⟩ | ⟨decision, hsome, haccepted, hstale⟩
    · rw [hnone] at h
      cases h
      exact .inr ⟨rfl, hoverflows⟩
    · rw [hsome] at h
      dsimp only at h
      by_cases haccepts : decision.accepted = true
      · rw [if_pos haccepts] at h
        cases h
      rw [if_neg haccepts] at h
      have hreasons : decision.haltReasons.isEmpty = false := by
        rw [← haccepted]
        exact Bool.eq_false_of_not_eq_true haccepts
      split_ifs at h with hcontains
      · obtain ⟨reason, hreason⟩ := hstale hcontains
        unfold recordStaleLossGovernorHalt at h
        rw [hreason] at h
        cases h
        exact .inl ⟨_, rfl, validate_lossHalt hreasons _⟩
      · cases h
        exact .inl ⟨_, rfl, validate_lossHalt hreasons _⟩
  · cases h

omit [DecimalArith] in
/-- A refusal of the order itself has no context. -/
theorem validate_refusal {reason : AdmissionRejectionReason}
    (diagnostics : Option LossSnapshotDiagnostics)
    (h : authorityRefusal inner request = some reason ∨ orderRefusal inner request = some reason) :
    ((withoutLossHalt (.rejected reason) nowNs).withLossSnapshotDiagnostics diagnostics).validate =
      .ok () := by
  have hreason : reason ∈ [AdmissionRejectionReason.clientOrderAlreadyAuthorized,
      .killSwitchLatched, .nonPositiveNotional, .notionalCapExceeded, .countCapExhausted,
      .invalidRiskReducingExitProof] := by
    rcases h with h | h
    · have hmem := firstRefusal_mem h
      simp only [List.map_cons, List.map_nil, List.mem_cons, List.not_mem_nil, or_false] at hmem ⊢
      exact hmem.elim .inl fun h => .inr (.inl h)
    · have hmem := firstRefusal_mem h
      simp only [List.map_cons, List.map_nil, List.mem_cons, List.not_mem_nil, or_false] at hmem ⊢
      exact .inr (.inr hmem)
  simp only [List.mem_cons, List.not_mem_nil, or_false] at hreason
  rcases hreason with rfl | rfl | rfl | rfl | rfl | rfl <;> rfl

theorem evaluateCapital_decides (capital : SubmitCapitalAdmissionState) (revision : Nat)
    (invariant : SubmitAdmissionInvariant) :
    (evaluateCapital capital revision request nowNs).2.2 ≠ .invariant invariant := by
  rcases evaluateCapital_cases capital revision request nowNs with
    ⟨_, heval, ⟨rfl, -⟩ | ⟨reason, rfl⟩⟩ | ⟨-, -, heval⟩ | ⟨reason, heval⟩ |
    ⟨_, _, _, _, _, _, -, -, -, -, heval⟩ <;> rw [heval] <;> rintro ⟨⟩

/-- **Evaluations are consistent.** Unless a rollback lost its ownership, an order is evaluated
without an invariant violation and the evaluation passes the check of its own context, whatever the
order, policy, snapshot and ledger; only a drawdown that overflows panics. -/
theorem evaluations_are_consistent (h : inner.rollbackOwnershipLatch = none) :
    (∃ evaluation, (evaluate inner request nowNs).2 = .ok evaluation ∧
      evaluation.validate = .ok ()) ∨
      (evaluate inner request nowNs).2 = .error .panicked ∧ inner.DrawdownOverflows := by
  unfold evaluate
  rw [h]
  dsimp only
  rcases hauthority : authorityRefusal inner request with _ | reason
  · rcases hloss : evaluateLoss inner request nowNs with ⟨inner', result | diagnostics⟩
    · exact evaluateLoss_halts inner request nowNs hloss
    dsimp only
    rcases horder : orderRefusal inner' request with _ | reason
    · unfold evaluateOrderCapital evaluateCapitalAdmissionSubmit
      rcases inner'.capitalAdmission with _ | capital
      · exact .inl ⟨_, rfl, rfl⟩
      rw [if_neg (by simp)]
      dsimp only
      rcases hcapital : (evaluateCapital capital inner'.capitalAdmissionStateRevision request
        nowNs).2.2 with acceptance | reason | invariant
      · exact .inl ⟨_, rfl, rfl⟩
      · exact .inl ⟨_, rfl, rfl⟩
      · exact absurd hcapital (evaluateCapital_decides request nowNs capital _ invariant)
    · exact .inl ⟨_, rfl, validate_refusal inner' request nowNs _ (.inr horder)⟩
  · exact .inl ⟨_, rfl, validate_refusal inner request nowNs none (.inl hauthority)⟩

end

/-- In the state over its budget a further order is refused, and the refusal passes its check. -/
theorem PoolOf100.order_is_evaluated : let _ := Decimal.reference
    (evaluate (setup.start.run shown).inner (order "C" 10) 1).2.toOption.map (·.outcome) =
        some (.rejected .capitalAdmission) ∧
      ∃ evaluation, (evaluate (setup.start.run shown).inner (order "C" 10) 1).2 = .ok evaluation ∧
        evaluation.validate = .ok () := by
  refine ⟨by decide,
    (@evaluations_are_consistent Decimal.reference _ _ _ (by decide)).resolve_right ?_⟩
  rintro ⟨-, policy, _, _, _, _, hpolicy, -⟩
  cases hpolicy

end BoltV3.Submit
