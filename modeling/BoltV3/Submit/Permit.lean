import BoltV3.Submit.Capital

/-!
# Permits

`bolt_v3_submit_admission.rs`: an admission returns a permit that owns its reservations and its
share of the counters. A permit crosses the submit boundary with `prepare_sink_invocation` and
`commit`, or is dropped and rolled back by `rollback_unsubmitted_permit`.

* A rollback re-finds every reservation by identity and phase and works on a candidate copy; if
  anything is missing, `RollbackOwnershipLost` is latched and nothing is released.
* The `BTreeSet`s that only detect duplicates inside one call are lists.
-/

namespace BoltV3.Submit

open Lib Loss Capital Evidence Std

/-- `BoltV3SubmitAdmissionCounterRollback`. -/
structure SubmitAdmissionCounterRollback where
  executionClientId : String
  orderCount : Nat
  uncommittedEvidenceFreeClientOrderIds : List String

/-- `BoltV3SubmitAdmissionCounterValues`. -/
structure SubmitAdmissionCounterValues where
  (admittedOrderCount executionClientOrderCount : Nat)

inductive SubmitEvidenceAuthority
  | committedEntry | committedBasket | riskReducing

/-- `BoltV3SubmitAdmissionPermit`. -/
structure SubmitAdmissionPermit where
  rollbacks : List CapitalAdmissionReservationRollback
  counterRollback : Option SubmitAdmissionCounterRollback
  evidenceAuthority : Option SubmitEvidenceAuthority
  committed : Bool

/-! ## Rolling back reservations -/

/-- The variables of the rollback loop. -/
structure RollbackProgress where
  capital : SubmitCapitalAdmissionState
  revision : Nat
  clientOrderIds : List String
  reservationIds : List (String × String)
  observedAtNs : Option Nat

variable (progress : RollbackProgress) (rollback : CapitalAdmissionReservationRollback)

/-- The variables after a reservation is taken out. -/
def RollbackProgress.released (gate : ReservationLedger) (revision : Nat) : RollbackProgress :=
  { capital := { progress.capital with
      gate := gate
      clientOrderReservations :=
        progress.capital.clientOrderReservations.erase rollback.clientOrderId }
    revision := revision
    clientOrderIds := rollback.clientOrderId :: progress.clientOrderIds
    reservationIds := (rollback.poolId, rollback.submitReservationId) :: progress.reservationIds
    observedAtNs := some (Nat.max (progress.observedAtNs.getD rollback.observedAtNs)
      rollback.observedAtNs) }

/-- One round of the loop of `prepare_capital_admission_reservation_rollback`. -/
def rollbackStep : Except ReservationRejectionReason RollbackProgress :=
  if progress.clientOrderIds.contains rollback.clientOrderId ||
      progress.reservationIds.contains (rollback.poolId, rollback.submitReservationId) then
    .error .duplicateReservation
  else
    match nextRevision progress.revision with
    | none => .error .reconciliationRequired
    | some revision =>
      match progress.capital.clientOrderReservations[rollback.clientOrderId]? with
      | none => .error .unknownReservation
      | some record =>
        if record.phase ≠ .reserved ∨ record.attribution.clientOrderId ≠ rollback.clientOrderId ∨
            record.attribution.submitReservationId ≠ rollback.submitReservationId ∨
            record.attribution.capitalPoolId ≠ rollback.poolId then .error .invalidRequest
        else
          match progress.capital.gate.retainedReservation rollback.poolId
            record.attribution.collateralGroupId rollback.submitReservationId with
          | .error reason => .error reason
          | .ok _ =>
            match progress.capital.gate.rollbackUncommitted rollback.poolId
              rollback.submitReservationId with
            | (_, none) => .error .unknownReservation
            | (gate, some _) => .ok (progress.released rollback gate revision)

/-- The capital state once every reservation is taken out. -/
def RollbackProgress.finish : SubmitCapitalAdmissionState :=
  let capital := { progress.capital with
    unresolvedLifecycleReservations :=
      unresolvedReservationCounts progress.capital.clientOrderReservations }
  match progress.observedAtNs with
  | some observedAtNs => capital.refreshReservationSnapshot observedAtNs
  | none => capital

variable (inner : Inner) (rollbacks : List CapitalAdmissionReservationRollback)

def prepareCapitalAdmissionReservationRollback :
    Except ReservationRejectionReason (Option SubmitCapitalAdmissionState × Nat) :=
  if rollbacks.isEmpty then .ok (none, inner.capitalAdmissionStateRevision)
  else
    match inner.capitalAdmission with
    | none => .error .unknownReservation
    | some capital =>
      match rollbacks.reverse.foldlM rollbackStep
        ⟨capital, inner.capitalAdmissionStateRevision, [], [], none⟩ with
      | .error reason => .error reason
      | .ok progress => .ok (some progress.finish, progress.revision)

def commitCapitalAdmissionReservationRollback
    (prepared : Option SubmitCapitalAdmissionState × Nat) : Inner :=
  { inner with
    capitalAdmission := prepared.1.or inner.capitalAdmission
    capitalAdmissionStateRevision := prepared.2 }

/-- `advance_capital_admission_state_revision` where the failure is only logged, and the gate
closed. -/
def Inner.close : Inner :=
  { inner with
    capitalAdmissionStateRevision := saturatingSucc u64Max inner.capitalAdmissionStateRevision
    capitalAdmission :=
      inner.capitalAdmission.map SubmitCapitalAdmissionState.invalidateReconciliation }

def latchSubmitAdmissionRollbackOwnershipFailure : Inner :=
  { inner.close with rollbackOwnershipLatch := some .rollbackOwnershipLost }

def rollbackCapitalAdmissionReservations : Inner :=
  match prepareCapitalAdmissionReservationRollback inner rollbacks with
  | .ok prepared => commitCapitalAdmissionReservationRollback inner prepared
  | .error _ => latchSubmitAdmissionRollbackOwnershipFailure inner

/-- `if let Some(rollback) = rollback { rollback_capital_admission_reservation(inner, rollback) }`.
-/
def rollbackIfReserved (rollback : Option CapitalAdmissionReservationRollback) : Inner :=
  match rollback with
  | some rollback => rollbackCapitalAdmissionReservations inner [rollback]
  | none => inner

/-! ## Counters -/

/-- The admitted count of an execution client, zero where it has none. -/
def Inner.executionClientCount (executionClientId : String) : Nat :=
  (inner.admittedOrderCountByExecutionClient[executionClientId]?).getD 0

def checkedAdmissionCounterValues (admittedOrderCount executionClientOrderCount claimCount : Nat) :
    Option SubmitAdmissionCounterValues :=
  match checkedAdd u32Max admittedOrderCount claimCount with
  | none => none
  | some admitted =>
    match checkedAdd u32Max executionClientOrderCount claimCount with
    | none => none
    | some client => some ⟨admitted, client⟩

/-- Whether each id is listed once and held by a permit: the loops over the evidence-free ids. -/
def heldIds (admissions : ExtTreeMap String EvidenceFreeNonReservationPhase) : List String → Bool
  | [] => true
  | id :: ids => !ids.contains id && admissions[id]? == some .permitHeld && heldIds admissions ids

variable (rollback : SubmitAdmissionCounterRollback)

def checkedAdmissionCounterRollback : Option SubmitAdmissionCounterValues :=
  match checkedSub inner.admittedOrderCount rollback.orderCount with
  | none => none
  | some admitted =>
    match (inner.admittedOrderCountByExecutionClient[rollback.executionClientId]?).bind
      (checkedSub · rollback.orderCount) with
    | none => none
    | some client =>
      if heldIds inner.evidenceFreeNonReservationAdmissions
          rollback.uncommittedEvidenceFreeClientOrderIds then some ⟨admitted, client⟩
      else none

def applyAdmissionCounterRollback (values : SubmitAdmissionCounterValues) : Inner :=
  { inner with
    admittedOrderCount := values.admittedOrderCount
    admittedOrderCountByExecutionClient :=
      if values.executionClientOrderCount = 0 then
        inner.admittedOrderCountByExecutionClient.erase rollback.executionClientId
      else
        inner.admittedOrderCountByExecutionClient.insert rollback.executionClientId
          values.executionClientOrderCount
    evidenceFreeNonReservationAdmissions :=
      rollback.uncommittedEvidenceFreeClientOrderIds.foldl (·.erase ·)
        inner.evidenceFreeNonReservationAdmissions }

variable (counterRollback : Option SubmitAdmissionCounterRollback)

/-- The success of `rollback_unsubmitted_permit`: both rollbacks are prepared, then applied. -/
def rolledBackPermit : Option Inner :=
  match counterRollback with
  | none =>
    match prepareCapitalAdmissionReservationRollback inner rollbacks with
    | .error _ => none
    | .ok prepared => some (commitCapitalAdmissionReservationRollback inner prepared)
  | some counter =>
    match checkedAdmissionCounterRollback inner counter with
    | none => none
    | some values =>
      match prepareCapitalAdmissionReservationRollback inner rollbacks with
      | .error _ => none
      | .ok prepared =>
        some (applyAdmissionCounterRollback
          (commitCapitalAdmissionReservationRollback inner prepared) counter values)

/-- `rollback_unsubmitted_permit`: whatever fails is latched. -/
def rollbackUnsubmittedPermit : Inner :=
  (rolledBackPermit inner rollbacks counterRollback).getD
    (latchSubmitAdmissionRollbackOwnershipFailure inner)

variable (permit : SubmitAdmissionPermit)

/-- `drop` of a permit. -/
def dropPermit : Inner :=
  if permit.committed then inner
  else rollbackUnsubmittedPermit inner permit.rollbacks permit.counterRollback

/-! ## Crossing the submit boundary -/

structure PreparedSubmitSinkInvocationTransition where
  candidateCapitalAdmission : Option SubmitCapitalAdmissionState
  candidateEvidenceFree : Option (ExtTreeMap String EvidenceFreeNonReservationPhase)
  finalRevision : Nat

/-- One round of the loop of `prepare_submit_sink_invocation`. -/
def invokeStep (capital : SubmitCapitalAdmissionState) (revision : Nat)
    (rollback : CapitalAdmissionReservationRollback) :
    Except ReservationRejectionReason (SubmitCapitalAdmissionState × Nat) :=
  match nextRevision revision with
  | none => .error .reconciliationRequired
  | some next =>
    match capital.clientOrderReservations[rollback.clientOrderId]? with
    | none => .error .unknownReservation
    | some record =>
      if ¬ (record.phase = .reserved ∧
          record.attribution.submitReservationId = rollback.submitReservationId ∧
          record.attribution.capitalPoolId = rollback.poolId) then .error .unknownReservation
      else
        match capital.gate.retainedReservation record.attribution.capitalPoolId
          record.attribution.collateralGroupId record.attribution.submitReservationId with
        | .error reason => .error reason
        | .ok _ =>
          .ok ({ capital with
              clientOrderReservations := capital.clientOrderReservations.insert
                rollback.clientOrderId
                { record with phase := .sinkInvoked, phaseRevision := next } }, next)

/-- The evidence-free ids of a permit. -/
def evidenceFreeIds (counterRollback : Option SubmitAdmissionCounterRollback) : List String :=
  counterRollback.elim [] (·.uncommittedEvidenceFreeClientOrderIds)

def prepareSubmitSinkInvocation (rollbacks : List CapitalAdmissionReservationRollback)
    (counterRollback : Option SubmitAdmissionCounterRollback) :
    Except ReservationRejectionReason PreparedSubmitSinkInvocationTransition :=
  let ids := evidenceFreeIds counterRollback
  if !heldIds inner.evidenceFreeNonReservationAdmissions ids then .error .unknownReservation
  else
    let evidenceFree := if ids.isEmpty then none else
      some (ids.foldl (·.insert · .sinkInvoked) inner.evidenceFreeNonReservationAdmissions)
    if rollbacks.isEmpty then .ok ⟨none, evidenceFree, inner.capitalAdmissionStateRevision⟩
    else
      match inner.capitalAdmission with
      | none => .error .unknownReservation
      | some capital =>
        match rollbacks.foldlM (Function.uncurry invokeStep)
          (capital, inner.capitalAdmissionStateRevision) with
        | .error reason => .error reason
        | .ok (capital, revision) => .ok ⟨some capital, evidenceFree, revision⟩

variable (prepared : PreparedSubmitSinkInvocationTransition)

def commitSubmitSinkInvocation : Inner :=
  { inner with
    capitalAdmission := prepared.candidateCapitalAdmission.or inner.capitalAdmission
    evidenceFreeNonReservationAdmissions :=
      prepared.candidateEvidenceFree.getD inner.evidenceFreeNonReservationAdmissions
    capitalAdmissionStateRevision := prepared.finalRevision }

/-- `prepare_sink_invocation`: the transition is prepared and the evidence authority taken. -/
def prepareSinkInvocation :
    Except ReservationRejectionReason
      (PreparedSubmitSinkInvocationTransition × SubmitEvidenceAuthority) :=
  match prepareSubmitSinkInvocation inner permit.rollbacks permit.counterRollback with
  | .error reason => .error reason
  | .ok prepared =>
    match permit.evidenceAuthority with
    | none => .error .reconciliationRequired
    | some authority => .ok (prepared, authority)

/-- `BoltV3PreparedSubmitSinkInvocation::commit`: the permit gives up its authority and is
committed. -/
def commitPrepared : Inner × SubmitAdmissionPermit :=
  (commitSubmitSinkInvocation inner prepared,
    { permit with evidenceAuthority := none, committed := true })

end BoltV3.Submit
