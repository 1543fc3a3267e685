import BoltV3.Submit.Admit
import BoltV3.Submit.Rebuild

/-!
# The life of a reservation after admission

`bolt_v3_submit_admission.rs`: retiring the reservation of a terminal order, recording fills, the
capture failure of the collateral allowance, and the invalidation that precedes a projection; and
`canonical_nt_components` of `bolt_v3_capital_admission_runtime_feed.rs`, which composes the
components of a projection.

* A capability of `terminal_reservation_capabilities` is an argument of the retirement; nothing
  about the state it was read in is assumed.
* The fact recorded with a capture failure is never read back and its failure only logged.
-/

namespace BoltV3.Submit

open Lib Loss Capital Evidence Std

/-! ## Terminal orders -/

/-- `BoltV3SubmitTerminalReservationCapability`. -/
structure TerminalReservationCapability where
  clientOrderId : String
  phase : SubmitReservationPhase
  phaseRevision : Nat

/-- `BoltV3SubmitTerminalReservationDecision`. -/
inductive TerminalReservationDecision
  | retired | notRetained | staleCapability | revisionExhausted | ledgerMismatch | evidenceRejected
  | invariantViolation (error : SubmitAdmissionError)

/-- Whether a capability still is the one of the record. -/
def TerminalReservationCapability.current (capability : TerminalReservationCapability)
    (record : SubmitReservationRecord) : Bool :=
  record.phase != .reserved && record.phase == capability.phase &&
    record.phaseRevision == capability.phaseRevision

section

variable [DecimalArith]

/-- The end of `retire_terminal_reservation`: the reservation leaves the ledger and the index, or
the gate is closed. -/
def retireRecord (inner : Inner) (capital : SubmitCapitalAdmissionState) (clientOrderId : String)
    (record : SubmitReservationRecord) (append : Bool) : Inner × TerminalReservationDecision :=
  let (gate, release) := capital.gate.removeExisting record.attribution.capitalPoolId
    record.attribution.collateralGroupId record.attribution.submitReservationId
  if !release.accepted then (inner.close, .ledgerMismatch)
  else
    let index := capital.clientOrderReservations.erase clientOrderId
    let candidate := { capital with
      gate := gate, clientOrderReservations := index
      unresolvedLifecycleReservations := unresolvedReservationCounts index }
    let decision : SubmitRebuildDecision := ⟨true, none, 1, 0, candidate.reportedLiability⟩
    match recordCapitalAdmissionRebuild decision append with
    | .ok true =>
      ({ inner with
          capitalAdmission := some candidate
          capitalAdmissionStateRevision := inner.capitalAdmissionStateRevision + 1 }, .retired)
    | .ok false => (inner.close, .evidenceRejected)
    | .error error => (inner.close, .invariantViolation error)

def retireTerminalReservation (inner : Inner) (capability : TerminalReservationCapability)
    (append : Bool) : Inner × TerminalReservationDecision :=
  match inner.capitalAdmission with
  | none => (inner, .notRetained)
  | some capital =>
    match capital.clientOrderReservations[capability.clientOrderId]? with
    | none => (inner, .notRetained)
    | some record =>
      if !capability.current record then (inner, .staleCapability)
      else
        match nextRevision inner.capitalAdmissionStateRevision with
        | none => (inner.close, .revisionExhausted)
        | some _ => retireRecord inner capital capability.clientOrderId record append

end

/-! ## Fills -/

/-- `BoltV3SubmitCapitalAdmissionFillUpdate`. -/
structure FillUpdate where
  (clientOrderId tradeId instrumentId : String)
  side : CompiledOrderSide
  fillQuantity : Decimal
  observedAtNs : Nat
  reconciliation : Bool
  evidenceSource : SubmitReservationFillSource

/-- `BoltV3SubmitReservationFillEvidenceDecision`. -/
structure FillEvidenceDecision where
  (accepted unknownReservation : Bool)

def FillEvidenceDecision.unknown : FillEvidenceDecision := ⟨false, true⟩

variable (inner : Inner)

/-- The fill is evidence for an order that never reserved capital. -/
def knownNonReservationOrder (clientOrderId : String) : Bool :=
  inner.evidenceFreeNonReservationAdmissions[clientOrderId]? == some .sinkInvoked ||
    inner.committedAdmissionAuthority.authorizesNonReservationOrder clientOrderId

/-- The side of an attribution that names one. -/
def compiledOrderSide : EvidenceOrderSide → Option CompiledOrderSide
  | .buy => some .buy
  | .sell => some .sell
  | .unspecified => none

/-- What a fill of the order must name: its reservation, instrument and side, from the live record
or else from the committed attribution. -/
def expectedFill (live : Option SubmitReservationRecord) (clientOrderId : String) :
    Option (String × String × CompiledOrderSide) :=
  (live.bind fun record => record.fillMetadata.map fun metadata =>
      (record.attribution.submitReservationId, metadata.instrumentId, metadata.side)).or
    ((inner.committedAdmissionAuthority.reservationAttribution[clientOrderId]?).bind
      fun attribution => (compiledOrderSide attribution.side).map fun side =>
        (attribution.submitReservationId, attribution.instrumentId, side))

/-- The fill does not name the order it is for, or names no trade or quantity. -/
def fillMismatch (update : FillUpdate) (instrumentId : String) (side : CompiledOrderSide) : Bool :=
  !isTrimmed update.tradeId || update.tradeId.isEmpty || decide (update.fillQuantity ≤ .zero) ||
    update.instrumentId != instrumentId || update.side != side

/-- The state with a fill-evidence integrity failure, at a revision that is already advanced. -/
def Inner.failFill (revision observedAtNs : Nat) : Inner :=
  { inner with
    capitalAdmission := inner.capitalAdmission.map (·.failFillEvidenceIntegrity observedAtNs)
    capitalAdmissionStateRevision := revision }

def rejectCapitalAdmissionFillEvidenceIntegrity (observedAtNs : Nat) : Inner :=
  match nextRevision inner.capitalAdmissionStateRevision with
  | some revision => inner.failFill revision observedAtNs
  | none => inner.close

def rejectCapitalAdmissionFillEvidence (observedAtNs : Nat) : Inner :=
  if inner.capitalAdmission.isSome then
    rejectCapitalAdmissionFillEvidenceIntegrity inner observedAtNs
  else inner

section

variable [DecimalArith]

def reservationFillUpdateMatches (fact : SubmitReservationFillFact) (update : FillUpdate) : Bool :=
  fact.clientOrderId == update.clientOrderId && fact.tradeId == update.tradeId &&
    fact.instrumentId == update.instrumentId && fact.side == evidenceOrderSide update.side &&
    (DecimalArith.parse fact.fillQuantity).any fun quantity =>
      decide (quantity.NumEq update.fillQuantity)

/-- The fact recorded for a fill. -/
def fillFactOf (update : FillUpdate) (record : SubmitReservationRecord) :
    SubmitReservationFillFact :=
  { clientOrderId := update.clientOrderId
    submitReservationId := record.attribution.submitReservationId, tradeId := update.tradeId
    instrumentId := update.instrumentId, side := evidenceOrderSide update.side
    fillQuantity := DecimalArith.toText update.fillQuantity, observedAtNs := update.observedAtNs
    reconciliation := update.reconciliation, source := update.evidenceSource }

variable (update : FillUpdate)

/-- The end of `record_capital_admission_fill_evidence`, for a new fill of a live reservation: the
revision advances, then the fact is appended and applied to the authority. -/
def recordFill (record : SubmitReservationRecord) (append : Bool) : Outcome FillEvidenceDecision :=
  match nextRevision inner.capitalAdmissionStateRevision with
  | none => ⟨inner.close, [], .unknown⟩
  | some revision =>
    let fact := fillFactOf update record
    if !append then ⟨inner.failFill revision update.observedAtNs, [], ⟨false, false⟩⟩
    else
      match inner.committedAdmissionAuthority.apply (.fill fact) with
      | .error _ => ⟨inner.failFill revision update.observedAtNs, [.fill fact], ⟨false, false⟩⟩
      | .ok authority =>
        ⟨{ inner.withAuthority authority with capitalAdmissionStateRevision := revision },
          [.fill fact], ⟨true, false⟩⟩

/-- A fill that names its order: a known trade is accepted again if it is the same one, a new one
is recorded if its reservation is live. -/
def recordNamedFill (live : Option SubmitReservationRecord)
    (submitReservationId : String) (append : Bool) : Outcome FillEvidenceDecision :=
  let refused : Outcome FillEvidenceDecision :=
    ⟨rejectCapitalAdmissionFillEvidenceIntegrity inner update.observedAtNs, [], .unknown⟩
  match inner.committedAdmissionAuthority.reservationFill update.clientOrderId submitReservationId
    update.tradeId with
  | some existing =>
    if reservationFillUpdateMatches existing update then ⟨inner, [], ⟨true, false⟩⟩ else refused
  | none =>
    match live with
    | none => refused
    | some record =>
      if record.fillMetadata.isNone then refused else recordFill inner update record append

def recordCapitalAdmissionFillEvidence (append : Bool) : Outcome FillEvidenceDecision :=
  match inner.capitalAdmission with
  | none => ⟨inner, [], .unknown⟩
  | some capital =>
    let live := capital.clientOrderReservations[update.clientOrderId]?
    if live.isNone && knownNonReservationOrder inner update.clientOrderId then
      ⟨inner, [], ⟨true, false⟩⟩
    else
      match expectedFill inner live update.clientOrderId with
      | none =>
        ⟨rejectCapitalAdmissionFillEvidenceIntegrity inner update.observedAtNs, [], .unknown⟩
      | some (submitReservationId, instrumentId, side) =>
        if fillMismatch update instrumentId side then
          ⟨rejectCapitalAdmissionFillEvidenceIntegrity inner update.observedAtNs, [], .unknown⟩
        else recordNamedFill inner update live submitReservationId append

end

/-! ## Capture failures and projection requests -/

/-- `suspend_capital_admission_for_provider_collateral_allowance_capture_failure`. -/
def suspendCapitalAdmissionForCaptureFailure (source : String) (observedAtNs : Nat) : Inner :=
  match nextRevision inner.capitalAdmissionStateRevision with
  | none => inner.close
  | some revision =>
    { inner with
      capitalAdmission := inner.capitalAdmission.map fun capital =>
        ({ capital.invalidateReconciliation with
            captureFailureSource := some source, captureFailureObservedAtNs := some observedAtNs } :
          SubmitCapitalAdmissionState).refreshReservationSnapshotWithSource observedAtNs
            "provider_collateral_allowance_capture_failure" false
      capitalAdmissionStateRevision := revision }

def invalidateCapitalAdmissionForNtProjectionRequest : Inner := inner.close

/-! ## Updates that only replace a field -/

def updateLossSnapshot (snapshot : LossSnapshot) : Inner :=
  { inner with
    lossSourceObservations := snapshot.sourceObservations, lossSnapshot := some snapshot }

def updateLossSourceObservations (observations : LossSourceObservationTimestamps) : Inner :=
  { inner with lossSourceObservations := observations }

def replaceKillSwitchState (state : KillSwitchStateKind) : Inner :=
  { inner with killSwitchState := state }

/-! ## The components of a projection -/

structure CapitalAdmissionRuntimeFeedConfig where
  (venueId accountId collateralCurrency : String)
  productState : ProductAdmissionSnapshot

structure CapitalAdmissionRuntimeFeed where
  config : CapitalAdmissionRuntimeFeedConfig
  latestProviderCollateralAllowance : Option ProviderCollateralAllowanceSnapshot
  acceptedAllowanceObservedAtNs : Option Nat

structure CapitalAdmissionNtCacheProjection where
  acceptedAllowanceObservedAtNs : Option Nat
  accountBalances : Option (Decimal × Decimal)
  openClientOrderIds : List String
  (yesPosition noPosition : Decimal)
  observedAtNs : Nat

inductive CapitalAdmissionProjectionError
  | allowanceGenerationMismatch (accepted projected : Option Nat)
  | missingNtAccountBalances | missingProviderCollateralAllowance | duplicateNtClientOrderId

/-- The product of the configuration with the positions and the allowance of a projection. -/
def projectedProduct (product : PredictionMarketAdmissionSnapshot)
    (projection : CapitalAdmissionNtCacheProjection)
    (allowance : ProviderCollateralAllowanceSnapshot) : PredictionMarketAdmissionSnapshot :=
  { product with
    source := "nt_position_cache", observedAtNs := projection.observedAtNs
    yesPosition := projection.yesPosition, noPosition := projection.noPosition
    collateralAllowance := allowance.collateralAllowance }

def CapitalAdmissionRuntimeFeed.canonicalNtComponents (feed : CapitalAdmissionRuntimeFeed)
    (projection : CapitalAdmissionNtCacheProjection) :
    Except CapitalAdmissionProjectionError SubmitCapitalAdmissionNtComponents :=
  if feed.acceptedAllowanceObservedAtNs ≠ projection.acceptedAllowanceObservedAtNs then
    .error (.allowanceGenerationMismatch feed.acceptedAllowanceObservedAtNs
      projection.acceptedAllowanceObservedAtNs)
  else
    match projection.accountBalances with
    | none => .error .missingNtAccountBalances
    | some (freeCollateral, totalEquity) =>
      match feed.latestProviderCollateralAllowance with
      | none => .error .missingProviderCollateralAllowance
      | some allowance =>
        if ¬ projection.openClientOrderIds.Nodup then .error .duplicateNtClientOrderId
        else
          .ok
            { source := "nt_capital_admission_runtime_components"
              observedAtNs := Nat.max projection.observedAtNs allowance.observedAtNs
              portfolio :=
                { source := "nt_account_cache", observedAtNs := projection.observedAtNs
                  venueId := feed.config.venueId, accountId := feed.config.accountId
                  collateralCurrency := feed.config.collateralCurrency
                  freeCollateral := freeCollateral, totalEquity := totalEquity }
              providerCollateralAllowance := allowance
              orderLifecycle :=
                { source := "nt_open_order_cache", observedAtNs := projection.observedAtNs
                  openOrderCount := projection.openClientOrderIds.length
                  allOpenOrdersAttributed := projection.openClientOrderIds.isEmpty }
              productState := .predictionMarketBinary
                (projectedProduct feed.config.productState.product projection allowance)
              lossSnapshot := none }

end BoltV3.Submit
