import BoltV3.Lib.Machine
import BoltV3.Submit.Lifecycle

/-!
# The submit-admission system

The protected state together with what lives outside the mutex and refers to it: the permits that
were issued and the durable log. An operation runs under the lock from start to end, so every
concurrent execution is a list of operations, and `System.run` its effect.

* A permit is outstanding until it is committed at the submit boundary or dropped. A drop that
  cannot roll the permit back latches the failure; such a permit is kept as stranded.
* `prepare_sink_invocation` holds the lock until its result is committed or abandoned; an abandoned
  one gives the authority back, so `settle` with `commits = false` changes nothing.
* The projection of a rebuild is assembled outside the lock, from earlier states. All that is known
  of it is in `NtProjection`: its reservations were built from attributions and its components by
  the runtime feed, under the configuration of the system.
-/

namespace BoltV3.Submit

open Lib Loss Capital Evidence Std

/-! ## Operations -/

section

variable [DecimalArith]

/-- What a process starts from: its configuration and the events its log already holds, from which
the admission authority is recovered. -/
structure Setup where
  limits : ExtTreeMap String LiveSubmitApprovalLimits
  lossPolicy : Option LossGovernorPolicy
  capital : Option SubmitCapitalAdmissionConfig
  feed : CapitalAdmissionRuntimeFeedConfig
  recovered : List ReservationRecoveryEvent
  facts : ReservationRecoveryFacts
  recovers : ReservationRecoveryFacts.recover recovered = .ok facts

/-- The state after `new_with_optional_controls` and `install_recovered_admission_authority`. -/
def Setup.inner (setup : Setup) : Inner :=
  { Inner.newWithOptionalControls setup.limits setup.lossPolicy setup.capital with
    committedAdmissionAuthority := setup.facts }

/-- A projection as the production caller assembles it. -/
structure NtProjection (setup : Setup) where
  expectedEpoch : Nat
  components : Option SubmitCapitalAdmissionNtComponents
  acceptedAllowanceObservedAtNs : Option Nat
  snapshot : OpenOrderSnapshot
  attributed : ∀ reservation ∈ snapshot.reservations, ∃ inner evidence attribution,
    inner.terms = setup.inner.terms ∧
      openOrderReservationFromAttribution inner evidence attribution = some reservation
  canonical : ∀ c, components = some c →
    ∃ (feed : CapitalAdmissionRuntimeFeed) (projection : CapitalAdmissionNtCacheProjection),
      feed.config = setup.feed ∧ feed.canonicalNtComponents projection = .ok c

/-- The operations on the admission state. `append` says whether the evidence was written. -/
inductive Op (setup : Setup)
  | admitAt (request : SubmitAdmissionRequest) (economics : Option EconomicsAdmission) (nowNs : Nat)
      (append : Except String Unit)
  | evaluate (request : SubmitAdmissionRequest) (economics : Option EconomicsAdmission)
      (nowNs : Nat) (append : Except String Unit)
  | basket (executionClientId : String) (claims : List BasketSubmitSlotClaim)
      (details : BasketAdmissionDetails) (nowNs : Nat) (append : Except String Unit)
  | settle (index : Nat) (commits : Bool)
  | drop (index : Nat)
  | rebuild (projection : NtProjection setup) (nowNs : Nat) (append : Bool)
  | retire (capability : TerminalReservationCapability) (append : Bool)
  | fill (update : FillUpdate) (append : Bool)
  | rejectFill (observedAtNs : Nat)
  | suspend (source : String) (observedAtNs : Nat)
  | invalidate
  | replaceKillSwitch (state : KillSwitchStateKind)
  | updateLossSnapshot (snapshot : LossSnapshot)
  | updateLossSourceObservations (observations : LossSourceObservationTimestamps)

/-- A permit and the client orders it is for. -/
structure Held where
  permit : SubmitAdmissionPermit
  clientOrderIds : List String

structure System where
  inner : Inner
  recorded : List ReservationRecoveryEvent
  (outstanding committed released stranded : List Held)

def Setup.start (setup : Setup) : System :=
  { inner := setup.inner, recorded := [], outstanding := [], committed := [], released := []
    stranded := [] }

/-- An operation that only acts on the protected state. -/
def System.within (s : System) (inner : Inner) : System := { s with inner := inner }

/-- An admission: what it recorded is in the log, and its permit, if any, is outstanding. -/
def System.issue (s : System) (clientOrderIds : List String)
    (outcome : Outcome (Except SubmitAdmissionError SubmitAdmissionPermit)) : System :=
  { s with
    inner := outcome.inner, recorded := s.recorded ++ outcome.recorded
    outstanding := match outcome.result with
      | .ok permit => s.outstanding ++ [⟨permit, clientOrderIds⟩]
      | .error _ => s.outstanding }

variable (s : System)

omit [DecimalArith] in
theorem System.issue_eq (clientOrderIds : List String)
    (outcome : Outcome (Except SubmitAdmissionError SubmitAdmissionPermit)) :
    s.issue clientOrderIds outcome = { s with
      inner := outcome.inner, recorded := s.recorded ++ outcome.recorded
      outstanding := s.outstanding ++
        outcome.result.toOption.toList.map fun permit => ⟨permit, clientOrderIds⟩ } := by
  unfold System.issue
  cases outcome.result with
  | error _ => simp [Except.toOption]
  | ok permit => rfl

/-- An operation that may record but issues nothing. -/
def System.record {α : Type} (s : System) (outcome : Outcome α) : System :=
  { s with inner := outcome.inner, recorded := s.recorded ++ outcome.recorded }

/-- The outstanding permit at `index` prepares its sink invocation and commits it. -/
def System.settle (s : System) (index : Nat) (commits : Bool) : System :=
  match s.outstanding[index]? with
  | none => s
  | some held =>
    match prepareSinkInvocation s.inner held.permit with
    | .error _ => s
    | .ok (prepared, _) =>
      if commits then
        let settled := commitPrepared s.inner held.permit prepared
        { s with
          inner := settled.1, outstanding := s.outstanding.eraseIdx index
          committed := s.committed ++ [⟨settled.2, held.clientOrderIds⟩] }
      else s

/-- The outstanding permit at `index` is dropped. -/
def System.drop (s : System) (index : Nat) : System :=
  match s.outstanding[index]? with
  | none => s
  | some held =>
    let dropped := { s with
      inner := dropPermit s.inner held.permit, outstanding := s.outstanding.eraseIdx index }
    if (rolledBackPermit s.inner held.permit.rollbacks held.permit.counterRollback).isSome then
      { dropped with released := s.released ++ [held] }
    else { dropped with stranded := s.stranded ++ [held] }

omit [DecimalArith] in
theorem System.settle_cases (index : Nat) (commits : Bool) :
    s.settle index commits = s ∨
    ∃ held prepared, s.outstanding[index]? = some held ∧ commits = true ∧
      prepareSubmitSinkInvocation s.inner held.permit.rollbacks held.permit.counterRollback =
        .ok prepared ∧
      s.settle index commits = { s with
        inner := commitSubmitSinkInvocation s.inner prepared
        outstanding := s.outstanding.eraseIdx index
        committed := s.committed ++
          [⟨{ held.permit with evidenceAuthority := none, committed := true },
            held.clientOrderIds⟩] } := by
  unfold System.settle prepareSinkInvocation
  split
  · exact .inl rfl
  rename_i held hheld
  cases hsubmit : prepareSubmitSinkInvocation s.inner held.permit.rollbacks
      held.permit.counterRollback with
  | error reason => exact .inl rfl
  | ok prepared =>
    cases held.permit.evidenceAuthority with
    | none => exact .inl rfl
    | some authority =>
      cases commits with
      | false => exact .inl rfl
      | true => exact .inr ⟨held, prepared, hheld, rfl, hsubmit, rfl⟩

omit [DecimalArith] in
theorem System.drop_cases (index : Nat)
    (uncommitted : ∀ held ∈ s.outstanding, held.permit.committed = false) :
    s.outstanding[index]? = none ∧ s.drop index = s ∨
    ∃ held, s.outstanding[index]? = some held ∧
      ((∃ inner', rolledBackPermit s.inner held.permit.rollbacks held.permit.counterRollback =
          some inner' ∧
        s.drop index = { s with
          inner := inner', outstanding := s.outstanding.eraseIdx index
          released := s.released ++ [held] }) ∨
      (rolledBackPermit s.inner held.permit.rollbacks held.permit.counterRollback = none ∧
        s.drop index = { s with
          inner := latchSubmitAdmissionRollbackOwnershipFailure s.inner
          outstanding := s.outstanding.eraseIdx index
          stranded := s.stranded ++ [held] })) := by
  unfold System.drop
  cases hheld : s.outstanding[index]? with
  | none => exact .inl ⟨rfl, rfl⟩
  | some held =>
    refine .inr ⟨held, rfl, ?_⟩
    dsimp only
    unfold dropPermit rollbackUnsubmittedPermit
    rw [uncommitted held (List.mem_of_getElem? hheld)]
    cases rolledBackPermit s.inner held.permit.rollbacks held.permit.counterRollback with
    | none => exact .inr ⟨rfl, rfl⟩
    | some inner' => exact .inl ⟨inner', rfl, rfl⟩

variable {setup : Setup}

/-- The effect of one operation. -/
def System.step (s : System) : Op setup → System
  | .admitAt request economics nowNs append =>
    s.issue [request.clientOrderId] (admitAtInner s.inner request economics nowNs append)
  | .evaluate request economics nowNs append =>
    s.record (evaluateAndRecordWithoutConsumingCapacityAt s.inner request economics nowNs append)
  | .basket executionClientId claims details nowNs append =>
    s.issue (claims.map (·.clientOrderId))
      (reserveBasketSubmitSlotsWithEvidence s.inner executionClientId claims details nowNs append)
  | .settle index commits => s.settle index commits
  | .drop index => s.drop index
  | .rebuild projection nowNs append =>
    s.within (commitCapitalAdmissionNtProjection s.inner projection.expectedEpoch
      projection.components projection.acceptedAllowanceObservedAtNs projection.snapshot nowNs
      append).1
  | .retire capability append => s.within (retireTerminalReservation s.inner capability append).1
  | .fill update append => s.record (recordCapitalAdmissionFillEvidence s.inner update append)
  | .rejectFill observedAtNs =>
    s.within (rejectCapitalAdmissionFillEvidence s.inner observedAtNs)
  | .suspend source observedAtNs =>
    s.within (suspendCapitalAdmissionForCaptureFailure s.inner source observedAtNs)
  | .invalidate => s.within (invalidateCapitalAdmissionForNtProjectionRequest s.inner)
  | .replaceKillSwitch state => s.within (replaceKillSwitchState s.inner state)
  | .updateLossSnapshot snapshot => s.within (Submit.updateLossSnapshot s.inner snapshot)
  | .updateLossSourceObservations observations =>
    s.within (Submit.updateLossSourceObservations s.inner observations)

/-- The effect of a list of operations, in order. -/
def System.run (s : System) (ops : List (Op setup)) : System := ops.foldl System.step s

@[simp] theorem System.run_nil : s.run ([] : List (Op setup)) = s := rfl

theorem System.run_append (ops ops' : List (Op setup)) :
    s.run (ops ++ ops') = (s.run ops).run ops' :=
  List.foldl_append

/-- **What every operation keeps holds after every run.** -/
theorem System.run_invariant {I : System → Prop} (keeps : ∀ s (op : Op setup), I s → I (s.step op))
    {s : System} (h : I s) (ops : List (Op setup)) : I (s.run ops) := by
  refine (Run.foldl System.step ops s).invariant ?_ h
  rintro s op _ hs rfl
  exact keeps s op hs

end

end BoltV3.Submit
