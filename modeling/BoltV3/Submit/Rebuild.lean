import BoltV3.Submit.Permit

/-!
# Rebuilding capital admission from a projection

`bolt_v3_submit_admission.rs`: `commit_capital_admission_nt_projection` replaces the ledger and the
client-order index by what a snapshot of the open orders shows, together with the reservations of
orders already past the submit boundary that the snapshot does not show.

* The rebuild works on a candidate copy of the capital state. Every failure before the gate discards
  it and closes the live gate, so `rebuildCandidate` is an `Except` whose error is the decision.
* `missing_nt_account_cache_balance` is attached by the caller, and the counts of the audit context
  only go into the recorded fact; both are left out.
* `open_order_reservation_from_attribution` builds the reservations of a snapshot; the production
  caller takes each of them from there.
-/

namespace BoltV3.Submit

open Lib Loss Capital Evidence Std

inductive CapitalAdmissionRebuildSource
  | ntOpenOrderCache | boltRecoveredOpenOrderReservations

def CapitalAdmissionRebuildSource.asStr : CapitalAdmissionRebuildSource → String
  | ntOpenOrderCache => "nt_open_order_cache"
  | boltRecoveredOpenOrderReservations => "bolt_recovered_open_order_reservations"

/-- `BoltV3SubmitCapitalAdmissionOpenOrderReservation`. -/
structure OpenOrderReservation where
  clientOrderId : String
  attribution : ReservationAttribution
  (submitReservationId collateralGroupId : String)
  liability : Decimal
  instrumentId : String
  side : CompiledOrderSide
  (openQuantity originalQuantity filledQuantity liabilityFactor additiveLiability : Decimal)
  observedAtNs : Nat
  evidenceLabel : String

/-- `BoltV3SubmitCapitalAdmissionOpenOrderSnapshot`. -/
structure OpenOrderSnapshot where
  observedAtNs : Nat
  evidenceSource : CapitalAdmissionRebuildSource
  observedOpenOrderCount : Nat
  allOpenOrdersAttributed : Bool
  reservations : List OpenOrderReservation

/-- `BoltV3SubmitCapitalAdmissionOpenOrderEvidence`. -/
structure OpenOrderEvidence where
  (clientOrderId instrumentId : String)
  side : CompiledOrderSide
  (openQuantity limitPrice : Decimal)
  observedAtNs : Nat
  evidenceLabel : String

/-- `BoltV3SubmitCapitalAdmissionRebuildDecision`, with the fields of the gate's decision. -/
abbrev SubmitRebuildDecision := CapitalAdmissionRebuildDecision

section

variable [DecimalArith]

/-! ## The reservation of an open order -/

/-- The numbers of an attribution, where all four texts parse. -/
def parsedAttribution (attribution : ReservationAttribution) :
    Option (Decimal × Decimal × Decimal × Decimal) :=
  match DecimalArith.parse attribution.submittedQuantity,
    DecimalArith.parse attribution.liabilityFactor,
    DecimalArith.parse attribution.additiveLiability,
    DecimalArith.parse attribution.reservedLiability with
  | some submitted, some factor, some additive, some reserved =>
    some (submitted, factor, additive, reserved)
  | _, _, _, _ => none

/-- The order is one that can be open: identified, with a quantity left and a price in `[0, 1]`. -/
def openOrderEvidenceInvalid (evidence : OpenOrderEvidence) : Bool :=
  isBlank evidence.clientOrderId || isBlank evidence.instrumentId ||
    isBlank evidence.evidenceLabel || decide (evidence.openQuantity ≤ .zero) ||
    decide (evidence.limitPrice < .zero) || decide (.one < evidence.limitPrice)

variable (capital : SubmitCapitalAdmissionState)

/-- The attribution is not one of this order under this configuration. -/
def attributionMismatch (product : PredictionMarketAdmissionSnapshot) (evidence : OpenOrderEvidence)
    (attribution : ReservationAttribution) : Bool :=
  attribution.clientOrderId != evidence.clientOrderId ||
    attribution.venueId != capital.venueId ||
    attribution.accountId != capital.accountId ||
    attribution.productKind != reservationProductKindFromCapital capital.productKind ||
    attribution.collateralCurrency != capital.collateralCurrency ||
    attribution.capitalPoolId != capital.capitalPool.poolId ||
    attribution.collateralGroupId != product.collateralCoupledGroupId ||
    attribution.instrumentId != evidence.instrumentId ||
    attribution.side != evidenceOrderSide evidence.side

variable (evidence : OpenOrderEvidence)

/-- The recorded numbers cannot be those of the order. -/
def attributionNumbersInvalid (submitted factor additive reserved : Decimal) : Bool :=
  decide (submitted ≤ .zero) || decide (submitted < evidence.openQuantity) ||
    decide (factor < .zero) || decide (.one < factor) || decide (additive < .zero) ||
    decide (reserved ≤ .zero)

variable (attribution : ReservationAttribution)

/-- The reservation of an order from its evidence and the recorded numbers. -/
def openOrderReservationOf
    (submitted factor additive filled liability : Decimal) : OpenOrderReservation :=
  { clientOrderId := evidence.clientOrderId, attribution := attribution
    submitReservationId := attribution.submitReservationId
    collateralGroupId := attribution.collateralGroupId, liability := liability
    instrumentId := attribution.instrumentId, side := evidence.side
    openQuantity := evidence.openQuantity, originalQuantity := submitted, filledQuantity := filled
    liabilityFactor := factor, additiveLiability := additive, observedAtNs := evidence.observedAtNs
    evidenceLabel := "bolt_known_reservation_attribution" }

/-- The numeric part of `open_order_reservation_from_attribution`: the recorded liability is that
of the submitted quantity at the order's price, and the open one is computed from it. -/
def openOrderNumbers (submitted factor additive reserved : Decimal) : Option OpenOrderReservation :=
  match checkedLifecycleLiability submitted factor additive with
  | none => none
  | some submittedLiability =>
    if ¬ (factor.NumEq (liabilityFactor evidence.side.toCapitalAdmission evidence.limitPrice) ∧
        reserved.NumEq submittedLiability) then none
    else
      match DecimalArith.checkedSub submitted evidence.openQuantity,
        checkedLifecycleLiability evidence.openQuantity factor additive with
      | some filled, some liability =>
        some (openOrderReservationOf evidence attribution submitted factor additive
          filled liability)
      | _, _ => none

variable (inner : Inner)

/-- `capital_admission_open_order_reservation_from_attribution`. -/
def openOrderReservationFromAttribution (evidence : OpenOrderEvidence)
    (attribution : ReservationAttribution) : Option OpenOrderReservation :=
  if openOrderEvidenceInvalid evidence then none
  else
    match inner.capitalAdmission with
    | none => none
    | some capital =>
      match capital.state with
      | none => none
      | some state =>
        let product := state.productState.product
        if attributionMismatch capital product evidence attribution then none
        else if evidence.instrumentId ≠ product.yesInstrumentId ∧
            evidence.instrumentId ≠ product.noInstrumentId then none
        else
          match parsedAttribution attribution with
          | none => none
          | some (submitted, factor, additive, reserved) =>
            if attributionNumbersInvalid evidence submitted factor additive reserved then none
            else openOrderNumbers evidence attribution submitted factor additive reserved

variable (reservation : OpenOrderReservation)

def rebuiltOpenOrderReservationAttributionValid : Bool :=
  reservation.clientOrderId == reservation.attribution.clientOrderId &&
    reservation.submitReservationId == reservation.attribution.submitReservationId &&
    reservation.collateralGroupId == reservation.attribution.collateralGroupId &&
    reservation.instrumentId == reservation.attribution.instrumentId &&
    evidenceOrderSide reservation.side == reservation.attribution.side &&
    !isBlank reservation.instrumentId &&
    !decide (reservation.openQuantity ≤ .zero) && !decide (reservation.originalQuantity ≤ .zero) &&
    !decide (reservation.filledQuantity < .zero) &&
    !decide (reservation.originalQuantity < reservation.filledQuantity) &&
    !decide (reservation.originalQuantity < reservation.openQuantity) &&
    !decide (reservation.liabilityFactor < .zero) && !decide (.one < reservation.liabilityFactor) &&
    !decide (reservation.additiveLiability < .zero) &&
    optionNumEq (DecimalArith.checkedSub reservation.originalQuantity reservation.filledQuantity)
      (some reservation.openQuantity) &&
    optionNumEq (checkedLifecycleLiability reservation.openQuantity reservation.liabilityFactor
      reservation.additiveLiability) (some reservation.liability)

/-! ## The candidate -/

/-- The live liability a decision reports. -/
def SubmitCapitalAdmissionState.reportedLiability : Decimal :=
  capital.gate.liveReservedLiability capital.capitalPool.poolId

/-- The candidate with the components of the projection: an allowance seen after a capture failure
clears it. -/
def projectedCapital (components : Option SubmitCapitalAdmissionNtComponents)
    (acceptedAllowanceObservedAtNs : Option Nat) : SubmitCapitalAdmissionState :=
  match components with
  | none => capital
  | some components =>
    let recaptured := capital.captureFailureObservedAtNs.any fun failed =>
      acceptedAllowanceObservedAtNs.any fun allowance => decide (failed < allowance)
    let capital : SubmitCapitalAdmissionState := if recaptured then
        { capital with captureFailureSource := none, captureFailureObservedAtNs := none }
      else capital
    capital.refreshStateFromComponents
      { components with
        orderLifecycle := { components.orderLifecycle with allOpenOrdersAttributed := false } }

/-- The record of an order seen open. -/
def observedRecord (revision : Nat) : SubmitReservationRecord :=
  { attribution := reservation.attribution, phase := .observedOpen, phaseRevision := revision
    unresolvedInProjection := false
    fillMetadata := some ⟨reservation.instrumentId, reservation.side⟩ }

/-- The ledger request of an order seen open. -/
def observedRequest (poolId : String) (reservation : OpenOrderReservation) : ReservationRequest :=
  { requestId := reservation.submitReservationId, poolId := poolId
    collateralGroupId := reservation.collateralGroupId, liability := reservation.liability
    observedAtNs := reservation.observedAtNs, evidenceLabel := reservation.evidenceLabel }

/-- The loop over the open orders of the snapshot, from position `index` on. An error is the reason
and the number of orders attempted. -/
def observeLoop (poolId : String) (retained : ExtTreeMap String SubmitReservationRecord)
    (revision : Nat) : Nat → ExtTreeMap String SubmitReservationRecord → List OpenOrderReservation →
    Except (ReservationRejectionReason × Nat)
      (ExtTreeMap String SubmitReservationRecord × List CapitalAdmissionReservationEvidence)
  | _, rebuilt, [] => .ok (rebuilt, [])
  | index, rebuilt, reservation :: rest =>
    if rebuilt.contains reservation.clientOrderId then .error (.duplicateReservation, index + 1)
    else if !rebuiltOpenOrderReservationAttributionValid reservation then
      .error (.missingEvidence, index + 1)
    else if (retained[reservation.clientOrderId]?).any fun record =>
        record.phase == .reserved || record.attribution != reservation.attribution then
      .error (.missingEvidence, index + 1)
    else
      match observeLoop poolId retained revision (index + 1)
        (rebuilt.insert reservation.clientOrderId (observedRecord reservation revision)) rest with
      | .error error => .error error
      | .ok (rebuilt, evidence) =>
        .ok (rebuilt, .ntOpenOrder (observedRequest poolId reservation) :: evidence)

/-- The loop over the retained records: an order the snapshot does not show keeps its reservation
if it is past the submit boundary; one still only reserved stops the rebuild. -/
def retainLoop (gate : ReservationLedger) :
    ExtTreeMap String SubmitReservationRecord → List (String × SubmitReservationRecord) →
    Option (ExtTreeMap String SubmitReservationRecord × List CapitalAdmissionReservationEvidence)
  | rebuilt, [] => some (rebuilt, [])
  | rebuilt, (clientOrderId, record) :: rest =>
    if rebuilt.contains clientOrderId then retainLoop gate rebuilt rest
    else if record.phase = .reserved then none
    else
      match gate.retainedReservation record.attribution.capitalPoolId
        record.attribution.collateralGroupId record.attribution.submitReservationId with
      | .error _ => none
      | .ok retained =>
        match retainLoop gate
          (rebuilt.insert clientOrderId { record with unresolvedInProjection := true }) rest with
        | none => none
        | some (rebuilt, evidence) =>
          some (rebuilt, .retainedLifecycleReservation retained :: evidence)

/-- A candidate that reached the gate. -/
structure RebuildCandidate where
  capital : SubmitCapitalAdmissionState
  index : ExtTreeMap String SubmitReservationRecord
  evidence : List CapitalAdmissionReservationEvidence

/-- A refused rebuild: its reason, the number of orders attempted, and the live liability. -/
def refusedRebuild (reason : ReservationRejectionReason) (attempted : Nat) (live : Decimal) :
    SubmitRebuildDecision :=
  ⟨false, some reason, attempted, 0, live⟩

variable (snapshot : OpenOrderSnapshot)

/-- Everything between the revision check and the gate: the candidate, or the decision that
refuses the rebuild. -/
def rebuildCandidate (revision : Nat) : Except SubmitRebuildDecision RebuildCandidate :=
  let refused := fun reason attempted => refusedRebuild reason attempted capital.reportedLiability
  if capital.fillEvidenceIntegrityFailed then
    .error (refused .missingEvidence snapshot.observedOpenOrderCount)
  else if !snapshot.allOpenOrdersAttributed then
    .error (refused .missingEvidence snapshot.observedOpenOrderCount)
  else
    match capital.state with
    | none => .error (refused .missingEvidence snapshot.observedOpenOrderCount)
    | some state =>
      let capital := { capital with
        capitalPool := { capital.capitalPool with
          source := state.portfolio.source, observedAtNs := state.portfolio.observedAtNs } }
      let retained := capital.clientOrderReservations
      match observeLoop capital.capitalPool.poolId retained revision 0 ∅ snapshot.reservations with
      | .error (reason, attempted) => .error (refused reason attempted)
      | .ok (observed, openOrders) =>
        match retainLoop capital.gate observed retained.toList with
        | none => .error (refused .missingEvidence snapshot.observedOpenOrderCount)
        | some (index, carried) =>
          .ok
            { capital := { capital with
                unresolvedLifecycleReservations := unresolvedReservationCounts index }
              index := index
              evidence := openOrders ++ carried }

/-! ## Deciding and recording -/

/-- `record_capital_admission_rebuild`: whether the outcome is recorded, and an invariant violation
for a contradictory decision. -/
def recordCapitalAdmissionRebuild (decision : SubmitRebuildDecision) (append : Bool) :
    Except SubmitAdmissionError Bool :=
  match decision.accepted, decision.reason with
  | true, none => .ok append
  | false, some _ => .ok append
  | false, none => .error (.invariantViolation .missingCapitalAdmissionRebuildRejectionReason)
  | true, some _ => .error (.invariantViolation .acceptedCapitalAdmissionRebuildHasRejectionReason)

variable (failureRevision : Nat)

def invalidateCapitalAdmissionRebuild : Inner :=
  { inner with
    capitalAdmission := inner.capitalAdmission.map fun capital =>
      capital.invalidateReconciliation.refreshReservationSnapshotWithSource snapshot.observedAtNs
        snapshot.evidenceSource.asStr false
    capitalAdmissionStateRevision := failureRevision }

/-- The live liability of the state, zero where capital admission is not configured. -/
def Inner.reportedLiability (inner : Inner) : Decimal :=
  inner.capitalAdmission.elim .zero (·.reportedLiability)

def finishCapitalAdmissionRebuild (decision : SubmitRebuildDecision) (append : Bool) :
    Inner × Except SubmitAdmissionError SubmitRebuildDecision :=
  let inner := invalidateCapitalAdmissionRebuild inner snapshot failureRevision
  match recordCapitalAdmissionRebuild decision append with
  | .error error => (inner, .error error)
  | .ok true => (inner, .ok decision)
  | .ok false =>
    (inner, .ok (refusedRebuild .missingEvidence decision.attemptedReservationCount
      inner.reportedLiability))

/-- The order lifecycle a rebuild writes into the state. -/
def rebuiltOrderLifecycle : OrderLifecycleCapitalAdmissionSnapshot :=
  { source := snapshot.evidenceSource.asStr, observedAtNs := snapshot.observedAtNs
    openOrderCount := snapshot.observedOpenOrderCount
    allOpenOrdersAttributed := snapshot.allOpenOrdersAttributed }

variable (candidate : RebuildCandidate)

/-- The capital state of an accepted rebuild. -/
def rebuiltCapital (gate : ReservationLedger)
    (snapshot : OpenOrderSnapshot) (nowNs : Nat) : SubmitCapitalAdmissionState :=
  ({ candidate.capital with
      gate := gate, clientOrderReservations := candidate.index
      state := candidate.capital.state.map
        (applyRebuildOrderLifecycle (rebuiltOrderLifecycle snapshot)) } :
    SubmitCapitalAdmissionState).refreshReservationSnapshot nowNs

/-- The gate's part of the rebuild: the candidate is committed, or discarded and the live gate
closed. -/
def rebuildAtGate (snapshot : OpenOrderSnapshot) (revision nowNs : Nat) (append : Bool) :
    Inner × Except SubmitAdmissionError SubmitRebuildDecision :=
  let (gate, result) := rebuildOpenOrderReservations candidate.capital.gate
    candidate.capital.capitalPool candidate.evidence nowNs
    candidate.capital.policy.minRemainingPoolBalance
  match result with
  | .error invariant =>
    (invalidateCapitalAdmissionRebuild inner snapshot revision,
      .error (.invariantViolation (.invalidCapitalAdmissionRebuildReservationDecision invariant)))
  | .ok decision =>
    if decision.accepted then
      match recordCapitalAdmissionRebuild decision append with
      | .error error => (invalidateCapitalAdmissionRebuild inner snapshot revision, .error error)
      | .ok false =>
        let inner := invalidateCapitalAdmissionRebuild inner snapshot revision
        (inner, .ok (refusedRebuild .missingEvidence decision.attemptedReservationCount
          inner.reportedLiability))
      | .ok true =>
        ({ inner with
            capitalAdmission := some (rebuiltCapital candidate gate snapshot nowNs)
            capitalAdmissionStateRevision := revision }, .ok decision)
    else finishCapitalAdmissionRebuild inner snapshot revision decision append

def rebuildCapitalAdmissionOpenOrderSnapshotWithProjection (nowNs : Nat)
    (expectedEpoch : Option Nat) (components : Option SubmitCapitalAdmissionNtComponents)
    (acceptedAllowanceObservedAtNs : Option Nat) (append : Bool) :
    Inner × Except SubmitAdmissionError SubmitRebuildDecision :=
  if expectedEpoch.any (· != inner.capitalAdmissionStateRevision) then
    (inner, .ok (refusedRebuild .missingEvidence snapshot.observedOpenOrderCount
      inner.reportedLiability))
  else
    match nextRevision inner.capitalAdmissionStateRevision with
    | none =>
      let inner := { inner with
        capitalAdmission :=
          inner.capitalAdmission.map SubmitCapitalAdmissionState.invalidateReconciliation }
      (inner, .ok (refusedRebuild .reconciliationRequired snapshot.observedOpenOrderCount
        inner.reportedLiability))
    | some revision =>
      match inner.capitalAdmission with
      | none =>
        (inner, .ok
          { accepted := snapshot.allOpenOrdersAttributed
            reason := if snapshot.allOpenOrdersAttributed then none else some .missingEvidence
            attemptedReservationCount := 0, rebuiltReservationCount := 0
            liveReservedLiability := .zero })
      | some capital =>
        match rebuildCandidate (projectedCapital capital components acceptedAllowanceObservedAtNs)
          snapshot revision with
        | .error decision => finishCapitalAdmissionRebuild inner snapshot revision decision append
        | .ok candidate => rebuildAtGate inner candidate snapshot revision nowNs append

def commitCapitalAdmissionNtProjection (expectedEpoch : Nat)
    (components : Option SubmitCapitalAdmissionNtComponents)
    (acceptedAllowanceObservedAtNs : Option Nat) (snapshot : OpenOrderSnapshot) (nowNs : Nat)
    (append : Bool) : Inner × Except SubmitAdmissionError SubmitRebuildDecision :=
  rebuildCapitalAdmissionOpenOrderSnapshotWithProjection inner snapshot nowNs (some expectedEpoch)
    components acceptedAllowanceObservedAtNs append

end

end BoltV3.Submit
